/-
# Targets of migrations

There is one revision of the schema.  A migration is told where to go by a text:
the name of the revision or a part that the name begins with, `head`, `base`, or a
number of steps with a sign, counted from a name in front of it or else from where
the database stands.  A label and an `@` may come first; a label has to name the
revision too.

Steps lead along `Place`s: up from the start to the revision, and down from the
revision to the ground.  Counted down from no revision at all, the first step leads
to the revision, because it is the last there is.  `moves` says whether a target
takes a database to its other state.
-/
import ChainLog.Text.Numeral
import ChainLog.Text.WordCharacter

namespace ChainLog.Schema

set_option autoImplicit false

open ChainLog.Text

/-- The name of the one revision. -/
def revision : String := "3c0b6d1e9a52"

inductive Direction where
  | up
  | down
deriving DecidableEq, Repr

/-- Why a target cannot be reached. -/
inductive TargetError where
  | unknown (name : String)
  /-- There are not as many steps from where the database stands. -/
  | steps (written : String) (count : Nat)
  /-- There are not as many steps from the name given. -/
  | walkedTooFar
  /-- The database does not have the revision that it should go back to. -/
  | notBelow (target : String)
  /-- There is no revision where one is needed. -/
  | noRevision
  /-- A range has to start at a revision or at the base. -/
  | noStart
  | rangeRefused
  | rangeNeeded
  | rangeMalformed
  /-- The number of steps cannot be read. -/
  | number (text : String) (e : Numeral.Error)
deriving DecidableEq

def TargetError.message : TargetError → String
  | unknown name => "Can't locate revision identified by '" ++ name ++ "'"
  | steps written count =>
      "Relative revision " ++ written ++ " didn't produce " ++ toString count ++ " migrations"
  | walkedTooFar => "Walked too far"
  | notBelow target =>
      "Destination " ++ target ++ " is not a valid downgrade target from current head(s)"
  | noRevision => ""
  | noStart => "'NoneType' object has no attribute 'revision'"
  | rangeRefused => "Range revision not allowed"
  | rangeNeeded => "downgrade with --sql requires <fromrev>:<torev>"
  | rangeMalformed => "too many values to unpack (expected 2)"
  | number text e => e.message text

/-! ## Names and labels -/

/-- A name, or a nonempty part that it begins with. -/
def named (name : String) : Except TargetError Unit :=
  if name = "" then .error .noRevision
  else if name.toList.isPrefixOf revision.toList then .ok ()
  else .error (.unknown name)

/-- The text before the first `@`, if there is one, and the text after it. -/
def splitLabel (text : String) : Option String × String :=
  let cs := text.toList
  if cs.contains '@' then
    (some (String.ofList (cs.takeWhile (· != '@'))),
      String.ofList ((cs.dropWhile (· != '@')).drop 1))
  else (none, text)

def isHead (name : String) : Bool := name == "head" || name == "heads"

/-- A label that goes with a name; the empty label goes with any. -/
def labelled : Option String → Except TargetError Unit
  | none => .ok ()
  | some label => if label = "" then .ok () else named label

/-- The names in a label that have to name the revision before it is taken for a part
of the labelled line.  The base is part of every line. -/
def labelNames (label : String) : Except TargetError (List String) :=
  match splitLabel label with
  | (none, name) => .ok (if isHead name || name == "base" then [] else [name])
  | (some first, name) => do
      if isHead name && !isHead first && first != "base" then labelled (some first)
      let firsts := if first = "" then [] else [first]
      return if isHead name || name == "base" then firsts else firsts ++ [name]

/-- The revision is part of the labelled line. -/
def onLine (label : Option String) : Except TargetError Unit :=
  match label with
  | none => .ok ()
  | some label => do (← labelNames label).forM named

/-! ## Steps -/

inductive Place where
  /-- Before any revision, or at none. -/
  | start
  | revision
  /-- Below the revision, having come down from it. -/
  | ground
deriving DecidableEq, Repr

def Place.up? : Place → Option Place
  | start => some revision
  | revision | ground => none

def Place.down? : Place → Option Place
  | start => some revision
  | revision => some ground
  | ground => none

/-- A number of steps down. -/
def Place.walkDown? : Nat → Place → Option Place
  | 0, p => some p
  | n + 1, p => p.down?.bind (walkDown? n)

/-- A number of steps up a labelled line. -/
def Place.walkUp? (label : Option String) : Nat → Place → Except TargetError (Option Place)
  | 0, p => .ok (some p)
  | n + 1, p =>
      match label.elim (.ok []) labelNames, p.up? with
      | .error e, _ => .error e
      | .ok _, none => .ok none
      | .ok names, some p =>
          match names.forM named with
          | .error e => .error e
          | .ok _ => walkUp? label n p

/-- The place that a name stands for, with or without a label. -/
def place (text : String) : Except TargetError Place := do
  let (label, name) := splitLabel text
  labelled label
  if name = "base" then return .start
  if isHead name then return .revision
  named name
  return .revision

/-! ## Reading a number of steps -/

/-- A number of steps, as written with its sign, and what may stand in front of it. -/
structure Relative where
  label : Option String
  name : Option String
  number : String
deriving DecidableEq

/-- A name, if any, a sign and digits; whatever follows is not looked at. -/
def relativeAfter (label : Option String) (s : List Char) : Option Relative :=
  let name := s.takeWhile isWordCharacter
  match s.dropWhile isWordCharacter with
  | [] => none
  | sign :: r =>
      let digits := r.takeWhile fun c => (decimalDigit? c).isSome
      if (sign = '+' ∨ sign = '-') ∧ digits ≠ [] then
        some ⟨label, if name = [] then none else some (String.ofList name),
          String.ofList (sign :: digits)⟩
      else none

/-- The shortest label, none of whose characters ends a line, after which a number of
steps can be read; `seen` is the text already passed. -/
def relativeLabelled (seen : List Char) : List Char → Option Relative
  | [] => none
  | '\n' :: _ => none
  | c :: r =>
      let here :=
        if c = '@' ∧ seen ≠ [] then relativeAfter (some (String.ofList seen)) r else none
      here.orElse fun _ => relativeLabelled (seen ++ [c]) r

/-- The number of steps that a target begins with. -/
def relative? (text : String) : Option Relative :=
  (relativeLabelled [] text.toList).orElse fun _ => relativeAfter none text.toList

namespace Relative

def count (r : Relative) : Except TargetError Int :=
  (Numeral.read .ten r.number.toList).mapError (.number r.number)

/-- A name with the label in front of it. -/
def withLabel (r : Relative) (name : String) : String :=
  match r.label with
  | none => name
  | some label => label ++ "@" ++ name

end Relative

/-! ## Up -/

/-- The place is the revision. -/
def reached : Option Place → Except TargetError Unit
  | some .revision => .ok ()
  | _ => .error .noRevision

/-- A number of steps up has to lead to the revision. -/
def upRelative (stamped : Bool) (r : Relative) : Except TargetError Unit := do
  let n ← r.count
  match r.name with
  | none =>
      if n ≤ 0 then throw (.steps (toString n) n.natAbs)
      if stamped then onLine r.label
      let found ← Place.walkUp? r.label n.toNat (if stamped then .revision else .start)
      if found.isNone then throw (.steps r.number n.natAbs)
      reached found
  | some name =>
      if 0 < n then reached (← Place.walkUp? r.label n.toNat (← place name))
      else reached ((← place (r.withLabel name)).walkDown? n.natAbs)

/-- Whether a name asks for the revision.  A negative number that is not taken for a
number of steps is counted from the head, and from no head if there is a label. -/
def upAbsolute (text : String) : Except TargetError Bool :=
  match splitLabel text with
  | (label, name) =>
      if name = "base" then .ok false
      else
        match Numeral.read .ten name.toList, label with
        | .ok (.negSucc _), none => .error .noRevision
        | .ok (.negSucc _), some _ => .ok false
        | _, _ => (place text).map fun _ => true

/-- A migration up to a target changes the state. -/
def movesUp (stamped : Bool) (target : String) : Except TargetError Bool :=
  match relative? target with
  | some r => (upRelative stamped r).map fun _ => !stamped
  | none => (upAbsolute target).map (· && !stamped)

/-! ## Down -/

/-- The place that is a number of steps away. -/
def downRelative (stamped : Bool) (r : Relative) : Except TargetError Place := do
  let n ← r.count
  let tooFew := TargetError.steps r.number n.natAbs
  match r.name, r.label with
  | some name, label =>
      let found ←
        if 0 ≤ n then Place.walkUp? label n.toNat (← place name)
        else pure ((← place (r.withLabel name)).walkDown? n.natAbs)
      match found with
      | none | some .start => throw .walkedTooFar
      | some p => return p
  | none, label =>
      if 0 ≤ n then throw tooFew
      if stamped then
        onLine label
        match (← place (r.withLabel revision)).walkDown? n.natAbs with
        | some p => return p
        | none => throw tooFew
      else
        match label with
        | none => throw tooFew
        | some label => do
            let _ ← labelNames label
            throw .noRevision

/-- The text after the last `@`. -/
def afterLastLabel (text : String) : String :=
  String.ofList ((text.toList.reverse.takeWhile (· != '@')).reverse)

/-- A migration down to a target changes the state.  The label of a name is not looked
at. -/
def movesDown (stamped : Bool) (target : String) : Except TargetError Bool :=
  let p := match relative? target with
    | some r => downRelative stamped r
    | none => place (afterLastLabel target)
  match p with
  | .error e => .error e
  | .ok .revision => if stamped then .ok false else .error (.notBelow target)
  | .ok .start | .ok .ground => .ok stamped

/-- A migration changes the state; it never goes against its direction. -/
def moves : Direction → Bool → String → Except TargetError Bool
  | .up => movesUp
  | .down => movesDown

/-! ## Ranges -/

/-- The two ends of a range; a single target is its upper end. -/
def range (text : String) : Except TargetError (Option String × String) :=
  let cs := text.toList
  match cs.count ':' with
  | 0 => .ok (none, text)
  | 1 =>
      .ok (some (String.ofList (cs.takeWhile (· != ':'))),
        String.ofList ((cs.dropWhile (· != ':')).drop 1))
  | _ => .error .rangeMalformed

/-- A range starts with the revision in place, or without it. -/
def startsStamped (start : String) : Except TargetError Bool :=
  if start = "base" then .ok false
  else
    match place start with
    | .error e => .error e
    | .ok .revision => .ok true
    | .ok _ => .error .noStart

end ChainLog.Schema
