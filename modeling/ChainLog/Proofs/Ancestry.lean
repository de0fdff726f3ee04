/-
# Ancestry

Following the parents of a record from one to the next (`Store.ancestor?`) leads down its chain,
one position at a time, to the head of the chain; what comes after the head is the record of the
nil identifier, if there is one (`Sound.ancestor?_eq`, `Sound.ancestor?_beyond`).

So there are no cycles as long as nil is nobody's identifier.  But nothing keeps a record from
having it, and then each head names that record: it is an ancestor of itself
(`no_cycles_without_nil`, `nil_record_is_its_own_parent`).
-/
import ChainLog.Proofs.Interleaving
import Mathlib.Logic.Relation

namespace ChainLog

set_option autoImplicit false

namespace Store

/-- The record names the other one as its parent, and both are stored. -/
structure IsParent (s : Store) (q r : Record) : Prop where
  parent : q ∈ s.records
  child : r ∈ s.records
  named : r.parent = q.id

/-- The record that is reached from `r` by naming the parent so many times. -/
def ancestor? (s : Store) (r : Record) : Nat → Option Record
  | 0 => some r
  | steps + 1 => (s.ancestor? r steps).bind fun q => s.record? q.parent

variable {s : Store} {c : ChainName} {q r : Record} {i k : Nat}

/-! ## Down the chain -/

/-- A record has a place in its chain. -/
theorem Sound.place (sound : s.Sound) (member : r ∈ s.records) :
    ∃ i : Nat, r.idx = .int i ∧ (s.ofChain r.chain)[i]? = some r := by
  have within : r ∈ s.ofChain r.chain := mem_ofChain.2 ⟨member, rfl⟩
  obtain ⟨i, idx⟩ := (sound.linked r.chain).idx_int within
  obtain ⟨-, found⟩ := (sound.linked r.chain).getElem?_of_idx within idx
  exact ⟨i, idx, by simpa using found⟩

/-- The records of a chain are found by their identifiers. -/
theorem Sound.record?_of_getElem? (sound : s.Sound) (found : (s.ofChain c)[i]? = some r) :
    s.record? r.id = some r := by
  apply (record?_eq_some_iff sound.keys).2
  exact ⟨(mem_ofChain.1 (List.mem_of_getElem? found)).1, rfl⟩

/-- The parent of a record that is not the first is the record before it. -/
theorem Sound.record?_parent (sound : s.Sound) (found : (s.ofChain c)[i + 1]? = some r) :
    s.record? r.parent = (s.ofChain c)[i]? := by
  have inside : i + 1 < (s.ofChain c).length := (List.getElem?_eq_some_iff.1 found).1
  have before : (s.ofChain c)[i]? = some (s.ofChain c)[i] := List.getElem?_eq_getElem (by omega)
  rw [(sound.linked c).parent_of_getElem? before found, before]
  exact sound.record?_of_getElem? before

/-- So many steps lead so many places down. -/
theorem Sound.ancestor?_eq (sound : s.Sound) (found : (s.ofChain c)[i]? = some r) (within : k ≤ i) :
    s.ancestor? r k = (s.ofChain c)[i - k]? := by
  induction k with
  | zero => exact found.symm
  | succ k ih =>
      have inside : i < (s.ofChain c).length := (List.getElem?_eq_some_iff.1 found).1
      have next : i - k = i - (k + 1) + 1 := by omega
      have reached : (s.ofChain c)[i - (k + 1) + 1]? = some (s.ofChain c)[i - (k + 1) + 1] :=
        List.getElem?_eq_getElem (by omega)
      rw [ancestor?, ih (by omega), next, reached]
      exact sound.record?_parent reached

/-- The last step is from the head of the chain. -/
theorem Sound.ancestor?_head (sound : s.Sound) (found : (s.ofChain c)[i]? = some r) :
    ∃ head, s.head? c = some head ∧ s.ancestor? r i = some head ∧ head.parent = Uuid.nil := by
  have inside : i < (s.ofChain c).length := (List.getElem?_eq_some_iff.1 found).1
  have first : (s.ofChain c)[0]? = some (s.ofChain c)[0] := List.getElem?_eq_getElem (by omega)
  refine ⟨(s.ofChain c)[0], ?_, ?_, ?_⟩
  · rw [sound.head?, List.head?_eq_getElem?, first]
  · rw [sound.ancestor?_eq found (Nat.le_refl i), Nat.sub_self, first]
  · apply (sound.linked c).parent_of_head
    rw [List.head?_eq_getElem?, first]

/-- Beyond the head is the record of the nil identifier, if there is one. -/
theorem Sound.ancestor?_beyond (sound : s.Sound) (found : (s.ofChain c)[i]? = some r) :
    s.ancestor? r (i + 1) = s.record? Uuid.nil := by
  obtain ⟨head, -, reached, named⟩ := sound.ancestor?_head found
  rw [ancestor?, reached, Option.bind_some, named]

/-! ## Cycles -/

/-- While nil is nobody's identifier, a parent stands before its child. -/
theorem Sound.position_of_parent (sound : s.Sound) (unnamed : s.record? Uuid.nil = none)
    (parent : s.IsParent q r) : ∃ i : Nat, q.idx = .int i ∧ r.idx = .int ((i + 1 : Nat)) := by
  obtain ⟨i, idx, found⟩ := sound.place parent.child
  have stored := (record?_eq_some_iff sound.keys).2 ⟨parent.parent, rfl⟩
  rw [← parent.named] at stored
  cases i with
  | zero =>
      have named : r.parent = Uuid.nil := by
        apply (sound.linked r.chain).parent_of_head
        rw [List.head?_eq_getElem?, found]
      rw [named, unnamed] at stored
      cases stored
  | succ i =>
      rw [sound.record?_parent found] at stored
      have before := (sound.linked r.chain).idx_of_getElem? stored
      rw [Nat.zero_add] at before
      exact ⟨i, before, idx⟩

/-- And so does every ancestor. -/
theorem Sound.position_of_ancestor (sound : s.Sound) (unnamed : s.record? Uuid.nil = none)
    (ancestor : Relation.TransGen s.IsParent q r) :
    ∃ i j : Nat, q.idx = .int i ∧ r.idx = .int j ∧ i < j := by
  induction ancestor with
  | single parent =>
      obtain ⟨i, before, after⟩ := sound.position_of_parent unnamed parent
      exact ⟨i, i + 1, before, after, Nat.lt_succ_self i⟩
  | tail _ parent ih =>
      obtain ⟨i, j, first, last, earlier⟩ := ih
      obtain ⟨k, before, after⟩ := sound.position_of_parent unnamed parent
      have same : j = k := Int.ofNat_inj.1 (Cell.int.inj (last.symm.trans before))
      subst same
      exact ⟨i, j + 1, first, after, by omega⟩

/-- What steps lead to is stored. -/
theorem Sound.stored_of_steps (sound : s.Sound) (member : r ∈ s.records)
    (reached : s.ancestor? r k = some q) : q ∈ s.records := by
  cases k with
  | zero =>
      obtain rfl := Option.some.inj reached
      exact member
  | succ k =>
      rw [ancestor?] at reached
      obtain ⟨p, -, found⟩ := Option.bind_eq_some_iff.1 reached
      exact ((record?_eq_some_iff sound.keys).1 found).1

/-- Steps that lead to a record make it an ancestor. -/
theorem Sound.ancestor_of_steps (sound : s.Sound) (member : r ∈ s.records)
    (reached : s.ancestor? r (k + 1) = some q) : Relation.TransGen s.IsParent q r := by
  induction k generalizing q with
  | zero =>
      obtain ⟨stored, named⟩ := (record?_eq_some_iff sound.keys).1 reached
      exact .single ⟨stored, member, named.symm⟩
  | succ k ih =>
      rw [ancestor?] at reached
      obtain ⟨p, before, found⟩ := Option.bind_eq_some_iff.1 reached
      obtain ⟨stored, named⟩ := (record?_eq_some_iff sound.keys).1 found
      exact .head ⟨stored, sound.stored_of_steps member before, named.symm⟩ (ih before)

/-- There are no cycles exactly if nil is nobody's identifier. -/
theorem Sound.acyclic_iff (sound : s.Sound) :
    (∀ r, ¬ Relation.TransGen s.IsParent r r) ↔ s.record? Uuid.nil = none := by
  constructor
  · intro acyclic
    cases unnamed : s.record? Uuid.nil with
    | none => rfl
    | some q =>
        obtain ⟨member, -⟩ := (record?_eq_some_iff sound.keys).1 unnamed
        obtain ⟨i, -, found⟩ := sound.place member
        have beyond := sound.ancestor?_beyond found
        rw [unnamed] at beyond
        exact absurd (sound.ancestor_of_steps member beyond) (acyclic q)
  · intro unnamed r cycle
    obtain ⟨i, j, first, last, earlier⟩ := sound.position_of_ancestor unnamed cycle
    have same : i = j := Int.ofNat_inj.1 (Cell.int.inj (first.symm.trans last))
    omega

end Store

/-- **No cycles without nil.**  In every reachable state, whatever identifiers the records have,
as many steps from a record to its parent as the record's position lead to the head of its chain,
and one more to the record of the nil identifier, or to none.  There is a cycle among the parents
exactly if there is a record of the nil identifier. -/
theorem no_cycles_without_nil (stamp : Option Bool) (moves : List Move) :
    ∃ s, ((Scene.opening stamp).run moves).database.store = .ok s ∧
      (∀ r ∈ s.records, ∃ (i : Nat) (head : Record), r.idx = .int i ∧
        s.head? r.chain = some head ∧ s.ancestor? r i = some head ∧
          s.ancestor? r (i + 1) = s.record? Uuid.nil) ∧
      ((∀ r, ¬ Relation.TransGen s.IsParent r r) ↔ ∀ r ∈ s.records, r.id ≠ Uuid.nil) := by
  obtain ⟨s, sound⟩ := Scene.run_sound (Scene.sound_opening stamp) moves
  refine ⟨s, sound.found, ?_, ?_⟩
  · intro r member
    obtain ⟨i, idx, found⟩ := sound.store.place member
    obtain ⟨head, first, reached, -⟩ := sound.store.ancestor?_head found
    exact ⟨i, head, idx, first, reached, sound.store.ancestor?_beyond found⟩
  · rw [sound.store.acyclic_iff, Store.record?_eq_none_iff]

/-- Two steps lead from the second record of a chain to no record at all. -/
theorem no_cycles_without_nil_of_two :
    let σ := (Scene.opening none).run
      [.look ⟨.numbered 1 0 "history" (.text "v0"), rfl⟩ default, .write 0 default,
        .look ⟨.numbered 2 1 "history" (.text "v0"), rfl⟩ default, .write 0 default]
    ∃ s r, σ.database.store = .ok s ∧ r ∈ s.records ∧ r.id = .ofNat 2 ∧ s.ancestor? r 2 = none ∧
      ∀ r, ¬ Relation.TransGen s.IsParent r r := by
  intro σ
  obtain ⟨s, found, steps, acyclic⟩ := no_cycles_without_nil none
    [.look ⟨.numbered 1 0 "history" (.text "v0"), rfl⟩ default, .write 0 default,
      .look ⟨.numbered 2 1 "history" (.text "v0"), rfl⟩ default, .write 0 default]
  obtain rfl := Except.ok.inj found
  obtain ⟨i, head, idx, -, -, beyond⟩ := steps
    ⟨.ofNat 2, ⟨.ofNat 7, .text "history"⟩, .ofNat 1, .int 0, .text "v0", [], .int 0, .int 1, default⟩
    (by decide)
  obtain rfl : i = 1 := (Int.ofNat_inj.1 (Cell.int.inj idx)).symm
  exact ⟨_, _, rfl, by decide, rfl, beyond, acyclic.2 (by decide)⟩

/-- A record of the nil identifier that starts a chain names itself. -/
theorem nil_record_is_its_own_parent :
    let σ := (Scene.opening none).run
      [.look ⟨.numbered 0 0 "history" (.text "v0"), rfl⟩ default, .write 0 default]
    ∃ s r, σ.database.store = .ok s ∧ s.IsParent r r := by
  intro σ
  let r : Record :=
    ⟨Uuid.nil, ⟨.ofNat 7, .text "history"⟩, Uuid.nil, .int 0, .text "v0", [], .int 0, .int 0, default⟩
  exact ⟨_, r, rfl, by decide, by decide, rfl⟩

end ChainLog
