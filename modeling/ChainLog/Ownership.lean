/-
# Chains by owner

A chain belongs to the user in its tip row, who is the user of its first record.
-/
import ChainLog.Database

namespace ChainLog

set_option autoImplicit false

/-- The tip rows of the chains that a user owns; no value owns none. -/
def Store.ownedBy (s : Store) (user : Option Cell) : List Tip :=
  s.tips.filter fun t => user.any t.userId.same

def Database.ownedBy (db : Database) (userId : Value) : Except StorageError (List Tip) := do
  let s ← db.store
  let user ← userId.inNumbers.mapError .parameter
  return s.ownedBy user

/-- Group the entries of a list by a key, keeping the order of first appearance. -/
def groupBy {α κ : Type} [DecidableEq κ] (key : α → κ) (l : List α) : List (κ × List α) :=
  (l.map key).eraseDups.map fun k => (k, l.filter (key · = k))

/-- The identifiers of a user's tips, by host and then by tag. -/
def Database.status (db : Database) (userId : Value) :
    Except StorageError (List (Uuid × List (Cell × Uuid))) := do
  let tips ← db.ownedBy userId
  return (groupBy (·.chain.host) tips).map fun g =>
    (g.1, g.2.map fun t => (t.chain.tag, t.tipId))

end ChainLog
