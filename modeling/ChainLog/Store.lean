/-
# The two tables

A store holds the records and one tip row per chain.  Three rules make up its
keys: no two records share an identifier, no two records share a chain and a
position, no two tip rows share a chain (`Store.KeysHold`).  Nothing else is
assumed of a store: its links may be broken and its lengths wrong, because rows
can be edited directly.

Every write is refused when it would break a rule, and then returns nothing; the
store it was applied to is still there.
-/
import ChainLog.Record

namespace ChainLog

set_option autoImplicit false

structure Store where
  records : List Record
  tips : List Tip
deriving DecidableEq, Inhabited

namespace Store

def empty : Store := ⟨[], []⟩

/-- Two records that may not both be stored. -/
def Clash (a b : Record) : Prop := a.id = b.id ∨ (a.chain = b.chain ∧ a.idx.same b.idx = true)

instance (a b : Record) : Decidable (Clash a b) :=
  inferInstanceAs (Decidable (_ ∨ _))

/-- The rules that every reachable or edited store obeys. -/
structure KeysHold (s : Store) : Prop where
  records : s.records.Pairwise fun a b => ¬ Clash a b
  tips : s.tips.Pairwise fun a b => a.chain ≠ b.chain

/-! ## Look-ups -/

def record? (s : Store) (id : Uuid) : Option Record := s.records.find? (·.id = id)

def tip? (s : Store) (c : ChainName) : Option Tip := s.tips.find? (·.chain = c)

/-- The records of a chain, in no particular order. -/
def ofChain (s : Store) (c : ChainName) : List Record := s.records.filter (·.chain = c)

/-- The length in the tip row; a chain without one has length 0. -/
def lengthOf (s : Store) (c : ChainName) : Cell := (s.tip? c).elim (.int 0) (·.length)

/-- The record that the tip row names. -/
def tipRecord? (s : Store) (c : ChainName) : Option Record :=
  (s.tip? c).bind fun t => s.record? t.tipId

/-- The record at position 0. -/
def head? (s : Store) (c : ChainName) : Option Record :=
  s.records.find? fun r => r.chain = c ∧ r.idx.same (.int 0)

/-! ## Writes -/

def addRecord? (s : Store) (r : Record) : Option Store :=
  if s.records.any (fun q => Clash q r) then none
  else some { s with records := s.records ++ [r] }

def addTip? (s : Store) (t : Tip) : Option Store :=
  if s.tips.any (·.chain = t.chain) then none
  else some { s with tips := s.tips ++ [t] }

/-- Move a chain's tip from `parent` to `id`, if that is where it is: the one
conditional write on which the store relies. -/
def moveTip? (s : Store) (c : ChainName) (parent id : Uuid) (now : Time.Instant) : Option Store :=
  if s.tips.any (fun t => t.chain = c ∧ t.tipId = parent) then
    some { s with tips := s.tips.map fun t =>
      if t.chain = c ∧ t.tipId = parent then
        { t with tipId := id, length := t.length.increased, updatedAt := now }
      else t }
  else none

theorem keysHold_empty : KeysHold empty := ⟨.nil, .nil⟩

end Store

end ChainLog
