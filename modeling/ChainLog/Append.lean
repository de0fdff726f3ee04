/-
# Appending

An append has two halves.  The first looks: it decides from one store whether the
entry starts its chain, extends it, or is refused (`Store.plan`).  The second
writes: it moves the tip and adds the record (`Store.commit`), on a store that may
have changed since.  The second half is atomic and checks again what it relies
on, by the keys of the tables and by the condition on the tip, so of two appends
that have planned on the same tip only one can be committed.

`Draft.prepare` and `Draft.complete` are the same halves for a draft and a
database; they also keep the draft's books and say what is to be logged.  The draft of
a record that is stored already is not added to the tables: its row is written again
with what has been changed in the draft (`Store.overwriteRecord`), whatever chain the
row was in.
-/
import ChainLog.Database
import ChainLog.LogLine
import ChainLog.Refusal
import ChainLog.Store.Update

namespace ChainLog

set_option autoImplicit false

/-- What the look-ups of an append have decided. -/
inductive Plan where
  /-- The chain has no tip row: start it.  There is no chain to start if the tag is no
  value to the tables. -/
  | start (chain : Option ChainName)
  /-- The parent is stored in the chain, at the given position. -/
  | extend (chain : ChainName) (parentIdx : Cell)
deriving DecidableEq

namespace Plan

/-- The position that a planned append will give to its record. -/
def idx? : Plan → Except OperandError Cell
  | start _ => .ok (.int 0)
  | extend _ parentIdx => parentIdx.next?

/-- The chain that a planned append will write to. -/
def chain? : Plan → Option ChainName
  | start chain => chain
  | extend chain _ => some chain

end Plan

/-- Why an append fails. -/
inductive AppendError where
  | draft (e : DraftError)
  /-- The entry is refused; `byKey` if a key of the tables did it, when another
  write had taken the key after the look-ups. -/
  | refused (r : Refusal) (byKey : Bool)
  | storage (e : StorageError)
  | operand (e : OperandError)
  /-- The draft was stored before, and the record that is to be written again is gone. -/
  | stale
  /-- The draft cannot be read: it was lost before, or it is by this append. -/
  | lost

/-- An entry cannot be handed to the tables. -/
def AppendError.ofParameter (e : ParameterError) : AppendError := storage (.parameter e)

/-- The refusal of an entry whose parent is not the tip. -/
def Entry.forks (e : Entry) (tip : Option Uuid) : Refusal := .fork e.host e.tag e.id e.parent tip

namespace Store

/-! ## The look-ups -/

/-- The look-ups of an entry that starts its chain. -/
def planStart (s : Store) (e : Entry) : Except AppendError Plan :=
  match chainNamed e.host e.tag with
  | .error err => .error (.ofParameter err)
  | .ok none => .ok (.start none)
  | .ok (some c) =>
      match s.tip? c with
      | some t => .error (.refused (e.forks (some t.tipId)) false)
      | none => .ok (.start (some c))

/-- The look-ups of an entry that extends its chain: the tag has to equal the one that
is read with the parent. -/
def planExtension (s : Store) (e : Entry) : Except AppendError Plan :=
  match s.record? e.parent with
  | none => .error (.refused (.orphan e.id e.parent) false)
  | some p =>
      if p.chain.host = e.host ∧ e.tag.equalsCell p.chain.tag then
        match e.tag.checkHashable with
        | .error err => .error (.ofParameter err)
        | .ok _ => .ok (.extend p.chain p.idx)
      else .error (.refused (e.forks none) false)

/-- The look-ups of an append. -/
def plan (s : Store) (e : Entry) : Except AppendError Plan :=
  if (s.record? e.id).isSome then .error (.refused (.conflict e.id) false)
  else if e.parent = Uuid.nil then s.planStart e
  else s.planExtension e

/-- The chain's owner, if an entry that extends the chain is by someone else. -/
def otherOwner? (s : Store) (e : Entry) : Plan → Option Cell
  | .start _ => none
  | .extend c _ => ((s.tip? c).map (·.userId)).filter fun u => !u.same (.int e.userId)

/-! ## The writes -/

/-- The first write of an append: the tip. -/
def writeTip (s : Store) (e : Entry) (now : Time.Instant) : Plan → Except AppendError Store
  | .start none => .error (.refused (e.forks none) true)
  | .start (some c) =>
      match s.addTip? ⟨c, .int e.userId, e.id, .int 1, now⟩ with
      | some s' => .ok s'
      | none => .error (.refused (e.forks none) true)
  | .extend c _ =>
      match s.moveTip? c e.parent e.id now with
      | some s' => .ok s'
      | none => .error (.refused (e.forks ((s.tip? c).map (·.tipId))) false)

/-- The second write of an append: the record, in a chain and at a position. -/
def writeRecord (s : Store) (e : Entry) (c : ChainName) (idx : Cell) (now : Time.Instant) :
    Except AppendError Store :=
  match e.version.inTexts, idx.parameter with
  | .error err, _ => .error (.ofParameter err)
  | .ok _, .error err => .error (.ofParameter err)
  | .ok none, .ok _ => .error (.refused (.conflict e.id) true)
  | .ok (some version), .ok idx =>
      match s.addRecord? (e.toRecord c version idx.inNumbers now) with
      | some s' => .ok s'
      | none => .error (.refused (.conflict e.id) true)

/-- The second write of an append whose draft was stored before, as the record `id`: the
changes are put into that record's row.  A row that breaks a rule is not refused as a
conflict: the failed write has let go of the draft, and whoever then reads its identifier to
name it in the refusal fails over that. -/
def overwriteRecord (s : Store) (id : Uuid) (changes : List (Field × Value)) :
    Except AppendError Store :=
  match update? Field.all Field.takes Field.bind changes, s.record? id with
  | .error err, _ => .error (.ofParameter err)
  | .ok _, none => .error .stale
  | .ok none, some _ => .error .lost
  | .ok (some update), some r =>
      match s.replaceRecord? id (update r) with
      | some s' => .ok s'
      | none => .error .lost

/-- Both writes of an append, or none: `planned` is the time of the look-ups, `now`
that of the writes. -/
def commit (s : Store) (e : Entry) (p : Plan) (planned now : Time.Instant) :
    Except AppendError Store :=
  match s.writeTip e planned p with
  | .error err => .error err
  | .ok s' =>
      match p.chain?, p.idx? with
      | _, .error err => .error (.operand err)
      | none, .ok _ => .error (.refused (e.forks none) true)
      | some c, .ok idx => s'.writeRecord e c idx now

/-- A whole append, with nothing in between. -/
def append (s : Store) (e : Entry) (now : Time.Instant) : Except AppendError Store :=
  match s.plan e with
  | .error err => .error err
  | .ok p => s.commit e p now now

end Store

/-! ## Drafts and databases -/

/-- An append between its two halves. -/
structure Pending where
  entry : Entry
  plan : Plan
  /-- When the look-ups were made. -/
  planned : Time.Instant

/-- What an append logs when it fails: refusals only. -/
def AppendError.log (e : Entry) : AppendError → List LogLine
  | refused r _ => [.refused e.id e.host e.tag r]
  | draft _ | storage _ | operand _ | stale | lost => []

namespace Draft

/-- Check a draft and make the look-ups of its append.  A draft that will start a
chain is given its position now. -/
def prepare (d : Draft) (db : Database) (now : Time.Instant) :
    Draft × List LogLine × Except AppendError Pending :=
  if d.origin = .lost then (d, [], .error .lost)
  else
    match d.settle with
    | (d, .error err) => (d, [], .error (.draft err))
    | (d, .ok e) =>
        match db.store with
        | .error err => (d, [], .error (.storage err))
        | .ok s =>
            match s.plan e with
            | .error err => (d, err.log e, .error err)
            | .ok p =>
                let d := match p with
                  | .start _ => { d with idx := .int 0 }
                  | .extend .. => d
                let log := (s.otherOwner? e p).toList.map fun owner =>
                  LogLine.otherOwner e.id e.host e.tag e.userId owner
                (d, log, .ok ⟨e, p, now⟩)

/-- Write the record of a draft that has been given its position, and the draft's new
state.  Of a draft that was stored before only what has been changed since is written; if
nothing has, nothing is, and not even the record is looked for. -/
def write (d : Draft) (s : Store) (e : Entry) (p : Plan) (idx : Cell) (now : Time.Instant) :
    Draft × Except AppendError Store :=
  match d.origin with
  | .lost => (d, .error .lost)
  | .stored before place =>
      match d.changes before place with
      | [] => (d, .ok s)
      | changes =>
          match s.overwriteRecord before.id changes with
          | .error err => ({ d with origin := .lost }, .error err)
          | .ok s => ({ d with origin := .stored e idx }, .ok s)
  | .new =>
      match d.createdAt, p.chain? with
      | .assigned _, _ => (d, .error (.ofParameter .wrongType))
      | _, none => (d, .error (.refused (e.forks none) true))
      | _, some c =>
          match s.writeRecord e c idx now with
          | .error err => (d, .error err)
          | .ok s => ({ d with createdAt := .stored now, origin := .stored e idx }, .ok s)

/-- Make the writes of a prepared append.  The draft keeps the position that it
was given when its tip was written, also if its record then cannot be. -/
def complete (d : Draft) (p : Pending) (db : Database) (now : Time.Instant) :
    Database × Draft × List LogLine × Except AppendError Unit :=
  let e := p.entry
  match db.store with
  | .error err => (db, d, [], .error (.storage err))
  | .ok s =>
      match s.writeTip e p.planned p.plan with
      | .error err => (db, d, err.log e, .error err)
      | .ok s =>
          match p.plan.idx? with
          | .error err => (db, d, [], .error (.operand err))
          | .ok idx =>
              match ({ d with idx := idx.value } : Draft).write s e p.plan idx now with
              | (d, .error err) => (db, d, err.log e, .error err)
              | (d, .ok s) =>
                  (db.withStore s, d, [.appended e.id e.host e.tag idx], .ok ())

/-- A whole append of a draft, with nothing in between. -/
def append (d : Draft) (db : Database) (now : Time.Instant) :
    Database × Draft × List LogLine × Except AppendError Unit :=
  match d.prepare db now with
  | (d, log, .error err) => (db, d, log, .error err)
  | (d, log, .ok p) =>
      let (db, d, log', outcome) := d.complete p db now
      (db, d, log ++ log', outcome)

end Draft

end ChainLog
