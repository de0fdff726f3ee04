/-
# Cursors

A cursor is a reading under way.  It reads nothing before the first record is
asked for; then it notes the length of the chain, and it reads a page whenever the
one it holds is used up.  What it holds does not change any more.  A cursor that
has come to the end, or has failed, stays there.
-/
import ChainLog.Chain

namespace ChainLog

set_option autoImplicit false

inductive Cursor where
  | fresh (c : Chain)
  /-- The rest of the page at hand, and the position of its last record. -/
  | reading (c : Chain) (stop : Cell) (rest : List Record) (last : Cell)
  | done
deriving DecidableEq

namespace Cursor

/-- The next record once the page at hand is used up. -/
def turn (db : Database) (c : Chain) (stop position : Cell) :
    Cursor × Except ReadFailure (Option Record) :=
  match position.isBelow? stop with
  | .error e => (.done, .error (.operand e))
  | .ok false => (.done, .ok none)
  | .ok true =>
      match db.page c position stop with
      | .error e => (.done, .error (.storage e))
      | .ok [] => (.done, .ok none)
      | .ok (r :: rest) =>
          (.reading c stop rest ((r :: rest).getLast (by simp)).idx, .ok (some r))

/-- The next record, if there is one, and the cursor behind it. -/
def next (db : Database) : Cursor → Cursor × Except ReadFailure (Option Record)
  | done => (done, .ok none)
  | reading c stop (r :: rest) last => (reading c stop rest last, .ok (some r))
  | reading c stop [] last =>
      match last.next? with
      | .error e => (done, .error (.operand e))
      | .ok position => turn db c stop position
  | fresh c =>
      match db.store with
      | .error e => (done, .error (.storage e))
      | .ok s => turn db c (s.lengthOf c.name) c.start

/-- Up to `n` records, and an end mark if there were not so many. -/
def take (db : Database) : Nat → Cursor → Cursor × Except ReadFailure (List (Option Record))
  | 0, k => (k, .ok [])
  | n + 1, k =>
      match k.next db with
      | (k, .error e) => (k, .error e)
      | (k, .ok none) => (k, .ok [none])
      | (k, .ok (some r)) =>
          match take db n k with
          | (k, .error e) => (k, .error e)
          | (k, .ok rs) => (k, .ok (some r :: rs))

end Cursor

end ChainLog
