/-
# Columns

What becomes of a value on its way into a column.  First it is handed over as a
parameter (`Value.parameter`): a truth value as a number, any carrier's bytes as
bytes, and nothing or a floating-point value that is no number as no value at all.
Then the column makes of it what it prefers, if that loses nothing: a column of
numbers an integer or else a number (`Cell.inNumbers`), a column of texts a text
(`Cell.inTexts`).  Bytes stay what they are.
-/
import ChainLog.Cell
import ChainLog.Decimal.Reading
import ChainLog.Word

namespace ChainLog

set_option autoImplicit false

/-- Why a value cannot be handed to a statement. -/
inductive ParameterError where
  /-- A whole number outside 64 bits. -/
  | tooLarge
  /-- No kind of cell holds such a value. -/
  | unsupported
  /-- The column takes identifiers, bytes or instants only. -/
  | wrongType
  /-- A row cannot be looked up by such a value. -/
  | unhashable (typeName : String)
deriving DecidableEq, Repr

def ParameterError.message? : ParameterError → Option String
  | tooLarge => some "Python int too large to convert to SQLite INTEGER"
  | unhashable typeName => some ("unhashable type: '" ++ typeName ++ "'")
  | unsupported | wrongType => none

/-- The parameter that a value is handed over as, if it is one. -/
def Value.parameter : Value → Except ParameterError (Option Cell)
  | .none => .ok Option.none
  | .bool b => .ok (some (.int (if b then 1 else 0)))
  | .int n => if IsWord n then .ok (some (.int n)) else .error .tooLarge
  | .float x => .ok (if x.isNaN then Option.none else some (.real x.toBits))
  | .text s => .ok (some (.text s))
  | .bytes _ content => .ok (some (.blob content))
  | .uuid _ | .list _ | .dict _ => .error .unsupported

/-- The parameter that a reader's cell is handed over as. -/
def Cell.parameter : Cell → Except ParameterError Cell
  | .int n => if IsWord n then .ok (.int n) else .error .tooLarge
  | c => .ok c

/-- The value equals the one that a reader is given for a cell. -/
def Value.equalsCell : Value → Cell → Bool
  | .bool b, c => (Cell.int (if b then 1 else 0)).same c
  | .int n, c => (Cell.int n).same c
  | .float x, c => !x.isNaN && (Cell.real x.toBits).same c
  | .text s, c => c == .text s
  | .bytes _ content, c => c == .blob content
  | .none, _ | .uuid _, _ | .list _, _ | .dict _, _ => false

/-- A value that rows can be looked up by. -/
def Value.checkHashable : Value → Except ParameterError Unit
  | .bytes .bytearray _ => .error (.unhashable "bytearray")
  | .list _ => .error (.unhashable "list")
  | .dict _ => .error (.unhashable "dict")
  | _ => .ok ()

/-! ## Texts of numbers -/

/-- A number as a text begins with it. -/
structure Leading where
  /-- It has neither a point nor an exponent. -/
  whole : Bool
  negative : Bool
  digits : Nat
  exp : Int
  /-- Nothing but blanks follows. -/
  complete : Bool
deriving DecidableEq, Repr

def isPlainBlank (c : Char) : Bool := c == ' ' || ('\t' ≤ c && c ≤ '\r')

/-- The exponent in front of a text, if there is one, and what follows. -/
def takeExponent (s : List Char) : Option Int × List Char :=
  match s with
  | e :: r =>
      if e == 'e' || e == 'E' then
        let (negative, t) : Bool × List Char :=
          match r with
          | '-' :: t => (true, t)
          | '+' :: t => (false, t)
          | t => (false, t)
        let digits := t.takeWhile Decimal.isDigit
        let n : Int := Decimal.natOf digits
        if digits = [] then (none, s)
        else (some (if negative then -n else n), t.dropWhile Decimal.isDigit)
      else (none, s)
  | [] => (none, s)

/-- The number that a text begins with, after blanks. -/
def Leading.read? (s : List Char) : Option Leading :=
  let s := s.dropWhile isPlainBlank
  let negative := s.head? == some '-'
  let s := if negative || s.head? == some '+' then s.drop 1 else s
  let integral := s.takeWhile Decimal.isDigit
  let rest := s.dropWhile Decimal.isDigit
  let point := rest.head? == some '.'
  let fraction := if point then (rest.drop 1).takeWhile Decimal.isDigit else []
  let rest := if point then (rest.drop 1).dropWhile Decimal.isDigit else rest
  if integral = [] ∧ fraction = [] then none
  else
    let (exponent, rest) := takeExponent rest
    some ⟨!point && exponent.isNone, negative, Decimal.natOf (integral ++ fraction),
      exponent.getD 0 - fraction.length, rest.all isPlainBlank⟩

/-- The number as a cell; an integer outside 64 bits becomes a floating-point value. -/
def Leading.cell (l : Leading) : Cell :=
  let n : Int := if l.negative then -(l.digits : Int) else l.digits
  if l.whole ∧ IsWord n then .int n
  else
    let x := Float.ofScientific l.digits (decide (l.exp < 0)) l.exp.natAbs
    .real (if l.negative then -x else x).toBits

namespace Cell

/-! ## Columns of numbers -/

/-- The whole number that a floating-point value is; those at the very ends of 64 bits
do not count. -/
def whole? (bits : UInt64) : Option Int :=
  let n := steps bits / unit
  if n * unit = steps bits ∧ -0x8000000000000000 < n ∧ n < 0x7fffffffffffffff then some n
  else none

def wholeIfExact : Cell → Cell
  | real bits => (whole? bits).elim (real bits) int
  | c => c

/-- A cell in a column of numbers. -/
def inNumbers : Cell → Cell
  | text s =>
      match Leading.read? s.toList with
      | some l => if l.complete then l.cell.wholeIfExact else text s
      | none => text s
  | c => c.wholeIfExact

/-- The number that a cell counts as in a sum. -/
def summand : Cell → Cell
  | int n => int n
  | real bits => real bits
  | text s => (Leading.read? s.toList).elim (int 0) Leading.cell
  | blob content =>
      (Leading.read? (content.map fun b => Char.ofNat b.toNat)).elim (int 0) Leading.cell

/-- One more, as a column of numbers holds it; past the last integer of 64 bits a
floating-point value takes over. -/
def increased (c : Cell) : Cell :=
  match c.summand with
  | int n => if IsWord (n + 1) then int (n + 1) else real (Float.ofInt n + 1.0).toBits
  | real bits => (real (Float.ofBits bits + 1.0).toBits).wholeIfExact
  | c => c

/-! ## Columns of texts -/

/-- A cell in a column of texts. -/
def inTexts : Cell → Cell
  | int n => text (toString n)
  | real bits => text (Decimal.stored.float (Float.ofBits bits))
  | c => c

end Cell

/-- What a column of numbers makes of a value. -/
def Value.inNumbers (v : Value) : Except ParameterError (Option Cell) :=
  v.parameter.map fun c => c.map Cell.inNumbers

/-- What a column of texts makes of a value. -/
def Value.inTexts (v : Value) : Except ParameterError (Option Cell) :=
  v.parameter.map fun c => c.map Cell.inTexts

end ChainLog
