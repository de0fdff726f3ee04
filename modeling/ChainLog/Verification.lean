/-
# Verification

A chain links up when its records stand at the positions 0, 1, 2, …, each names
the one before it as its parent, the first names nil, there are as many as the tip
row says, and the last is the one the tip row names.  The check walks a reading of
the chain against the tip row that was found before the walk, and stops when the
length of that row is reached, so that records appended meanwhile are no defect.
-/
import ChainLog.Chain

namespace ChainLog

set_option autoImplicit false

/-- Walk the records after the first `count`, of which the last was `expected`, up
to `length` of them: the last record's identifier and the number of records, or
the first defect. -/
def walk (c : ChainName) (length : Cell) :
    Uuid → Nat → List Record → Except Broken (Uuid × Nat)
  | expected, count, [] => .ok (expected, count)
  | expected, count, r :: rest =>
      if length.same (.int count) then .ok (expected, count)
      else if r.parent ≠ expected then .error ⟨c, r.id, .parent r.parent expected⟩
      else if !r.idx.same (.int count) then .error ⟨c, r.id, .position r.idx count⟩
      else walk c length r.id (count + 1) rest

/-- Check a reading against a tip row; the number of records checked.  A failure counts
only if the walk comes to it. -/
def Tip.check (t : Tip) (r : Reading) : Except ReadFailure Nat :=
  match walk t.chain t.length Uuid.nil 0 r.records with
  | .error b => .error (.broken b)
  | .ok (last, count) =>
      match r.failure?.filter fun _ => count = r.records.length with
      | some e => .error e
      | none =>
          if !t.length.same (.int count) then .error (.broken ⟨t.chain, t.tipId, .length t.length count⟩)
          else if t.tipId ≠ last then .error (.broken ⟨t.chain, last, .tip last t.tipId⟩)
          else .ok count

/-- Check a chain whose tip row has been found, the chain's length being noted in
`atStart` and its pages read in `view`. -/
def Tip.verifyWith (t : Tip) (pageSize : Int) (atStart : Database) (view : Nat → Database) :
    Except ReadFailure Nat :=
  t.check (Chain.readWith ⟨t.chain, .int 0, pageSize⟩ atStart view)

/-- The tip row of an existing chain. -/
def Database.tipRow (db : Database) (c : ChainName) : Except ReadFailure Tip :=
  match db.store with
  | .error e => .error (.storage e)
  | .ok s =>
      match s.tip? c with
      | none => .error (.absent (.chain c))
      | some t => .ok t

/-- Check a chain in a database that does not change. -/
def Database.verify (db : Database) (c : ChainName) (pageSize : Int) : Except ReadFailure Nat :=
  match db.tipRow c with
  | .error e => .error e
  | .ok t => t.verifyWith pageSize db fun _ => db

end ChainLog
