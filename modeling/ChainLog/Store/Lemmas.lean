/-
# Laws of the two tables

What each write does, seen through the look-ups, and that every write keeps the
keys (`KeysHold`).  Under the keys a look-up and membership say the same:
`record?_eq_some_iff`, `tip?_eq_some_iff`.
-/
import ChainLog.Cell.Lemmas
import ChainLog.Store

namespace ChainLog.Store

set_option autoImplicit false

variable {s s' : Store} {r q : Record} {t u : Tip} {c : ChainName} {id parent : Uuid}
  {now : Time.Instant}

theorem Clash.symm (h : Clash q r) : Clash r q :=
  h.imp Eq.symm fun h => ⟨h.1.symm, Cell.same_comm.trans h.2⟩

/-! ## What a write does -/

theorem addRecord?_eq_some_iff :
    s.addRecord? r = some s' ↔
      (∀ q ∈ s.records, ¬ Clash q r) ∧ s' = { s with records := s.records ++ [r] } := by
  unfold addRecord?
  split
  · rename_i clash
    simp only [List.any_eq_true, decide_eq_true_eq] at clash
    obtain ⟨q, member, h⟩ := clash
    simp only [reduceCtorEq, false_iff, not_and]
    exact fun free => absurd h (free q member)
  · rename_i free
    simp only [List.any_eq_true, decide_eq_true_eq, not_exists, not_and] at free
    simp only [Option.some.injEq]
    exact ⟨fun h => ⟨free, h.symm⟩, fun h => h.2.symm⟩

theorem addTip?_eq_some_iff :
    s.addTip? t = some s' ↔
      (∀ u ∈ s.tips, u.chain ≠ t.chain) ∧ s' = { s with tips := s.tips ++ [t] } := by
  unfold addTip?
  split
  · rename_i taken
    simp only [List.any_eq_true, decide_eq_true_eq] at taken
    obtain ⟨u, member, h⟩ := taken
    simp only [reduceCtorEq, false_iff, not_and]
    exact fun free => absurd h (free u member)
  · rename_i free
    simp only [List.any_eq_true, decide_eq_true_eq, not_exists, not_and] at free
    simp only [Option.some.injEq]
    exact ⟨fun h => ⟨free, h.symm⟩, fun h => h.2.symm⟩

/-- The tip row that a move makes of `t`. -/
def movedTip (c : ChainName) (parent id : Uuid) (now : Time.Instant) (t : Tip) : Tip :=
  if t.chain = c ∧ t.tipId = parent then
    { t with tipId := id, length := t.length.increased, updatedAt := now }
  else t

theorem movedTip_chain : (movedTip c parent id now t).chain = t.chain := by
  unfold movedTip
  split <;> rfl

theorem movedTip_of_other (other : t.chain ≠ c) : movedTip c parent id now t = t := by
  rw [movedTip, if_neg fun same => other same.1]

/-- Moving a tip moves the row that is found, and no other. -/
theorem tip?_moved {d : ChainName} :
    (s.tips.map (movedTip c parent id now)).find? (·.chain = d) =
      (s.tip? d).map (movedTip c parent id now) := by
  rw [List.find?_map, Store.tip?]
  congr 2
  funext t
  simp only [Function.comp_apply, movedTip_chain]

theorem moveTip?_eq_some_iff :
    s.moveTip? c parent id now = some s' ↔
      (∃ t ∈ s.tips, t.chain = c ∧ t.tipId = parent) ∧
        s' = { s with tips := s.tips.map (movedTip c parent id now) } := by
  unfold moveTip?
  split
  · rename_i found
    simp only [List.any_eq_true, decide_eq_true_eq] at found
    simp only [Option.some.injEq]
    exact ⟨fun h => ⟨found, h.symm⟩, fun h => h.2.symm⟩
  · rename_i missing
    simp only [List.any_eq_true, decide_eq_true_eq] at missing
    simp only [reduceCtorEq, false_iff, not_and]
    exact fun found => absurd found missing

/-! ## Every write keeps the keys -/

theorem KeysHold.addRecord? (keys : KeysHold s) (h : s.addRecord? r = some s') : KeysHold s' := by
  obtain ⟨free, rfl⟩ := addRecord?_eq_some_iff.1 h
  refine ⟨List.pairwise_append.2 ⟨keys.records, List.pairwise_singleton _ _, ?_⟩, keys.tips⟩
  intro q member p hp
  rw [List.mem_singleton.1 hp]
  exact free q member

theorem KeysHold.addTip? (keys : KeysHold s) (h : s.addTip? t = some s') : KeysHold s' := by
  obtain ⟨free, rfl⟩ := addTip?_eq_some_iff.1 h
  refine ⟨keys.records, List.pairwise_append.2 ⟨keys.tips, List.pairwise_singleton _ _, ?_⟩⟩
  intro u member v hv
  rw [List.mem_singleton.1 hv]
  exact free u member

theorem KeysHold.moveTip? (keys : KeysHold s) (h : s.moveTip? c parent id now = some s') :
    KeysHold s' := by
  obtain ⟨-, rfl⟩ := moveTip?_eq_some_iff.1 h
  refine ⟨keys.records, List.pairwise_map.2 (keys.tips.imp ?_)⟩
  intro a b different
  rwa [movedTip_chain, movedTip_chain]

/-! ## Look-ups under the keys -/

theorem KeysHold.record_unique (keys : KeysHold s) (hr : r ∈ s.records) (hq : q ∈ s.records)
    (clash : Clash r q) : r = q := by
  have apart := keys.records
  generalize s.records = l at hr hq apart
  induction l with
  | nil => cases hr
  | cons a l ih =>
      obtain ⟨first, rest⟩ := List.pairwise_cons.1 apart
      rcases List.mem_cons.1 hr with rfl | inRest
      · rcases List.mem_cons.1 hq with rfl | inRest
        · rfl
        · exact absurd clash (first q inRest)
      · rcases List.mem_cons.1 hq with rfl | inRest'
        · exact absurd clash.symm (first r inRest)
        · exact ih inRest inRest' rest

theorem KeysHold.tip_unique (keys : KeysHold s) (ht : t ∈ s.tips) (hu : u ∈ s.tips)
    (same : t.chain = u.chain) : t = u := by
  have apart := keys.tips
  generalize s.tips = l at ht hu apart
  induction l with
  | nil => cases ht
  | cons a l ih =>
      obtain ⟨first, rest⟩ := List.pairwise_cons.1 apart
      rcases List.mem_cons.1 ht with rfl | inRest
      · rcases List.mem_cons.1 hu with rfl | inRest
        · rfl
        · exact absurd same (first u inRest)
      · rcases List.mem_cons.1 hu with rfl | inRest'
        · exact absurd same.symm (first t inRest)
        · exact ih inRest inRest' rest

theorem record?_eq_some_iff (keys : KeysHold s) :
    s.record? id = some r ↔ r ∈ s.records ∧ r.id = id := by
  constructor
  · intro h
    exact ⟨List.mem_of_find?_eq_some h, by simpa using List.find?_some h⟩
  · rintro ⟨member, rfl⟩
    cases h : s.record? r.id with
    | none => simpa using List.find?_eq_none.1 h r member
    | some q =>
        have found : q.id = r.id := by simpa using List.find?_some h
        rw [keys.record_unique (List.mem_of_find?_eq_some h) member (.inl found)]

theorem tip?_eq_some_iff (keys : KeysHold s) :
    s.tip? c = some t ↔ t ∈ s.tips ∧ t.chain = c := by
  constructor
  · intro h
    exact ⟨List.mem_of_find?_eq_some h, by simpa using List.find?_some h⟩
  · rintro ⟨member, rfl⟩
    cases h : s.tip? t.chain with
    | none => simpa using List.find?_eq_none.1 h t member
    | some u =>
        have found : u.chain = t.chain := by simpa using List.find?_some h
        rw [keys.tip_unique (List.mem_of_find?_eq_some h) member found]

theorem record?_eq_none_iff : s.record? id = none ↔ ∀ r ∈ s.records, r.id ≠ id := by
  simp [record?]

theorem tip?_eq_none_iff : s.tip? c = none ↔ ∀ t ∈ s.tips, t.chain ≠ c := by
  simp [tip?]

end ChainLog.Store
