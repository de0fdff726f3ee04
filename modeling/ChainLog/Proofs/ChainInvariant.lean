/-
# The chain invariant

After any run of interleaved appends the two tables agree on every chain: there is nothing of
it, or one tip row and a record at each position below its length, linked from a head that
names nil to the record that the row names (`chains_intact`).

`Store.Intact` says so as a reader of the tables would check it, row by row.  Soundness
(`Store.Sound`) says it of the lists in which the tables are held, and is what appends keep.

The appends are of drafts that were never stored, with anything in their fields, and of stored ones
as they are.  A stored draft that has been changed breaks the invariant, because its record is
written again (`tip_row_of_overwritten_record`).
-/
import ChainLog.Proofs.Interleaving

namespace ChainLog

set_option autoImplicit false

/-- A chain of `n` records under the tip row `t`. -/
structure Store.Intact (s : Store) (c : ChainName) (t : Tip) (n : Nat) : Prop where
  row : s.tips.filter (·.chain = c) = [t]
  positive : 1 ≤ n
  /-- Only a chain of 2^63 records has a length that is no integer of the column. -/
  length : t.length.same (.int n) = true ∧ (n < 0x8000000000000000 → t.length = .int n)
  /-- Each position below the length is taken once, and no other. -/
  positions : ((s.ofChain c).map (·.idx)).Perm ((List.range n).map fun i => .int (i : Nat))
  head : ∀ r ∈ s.ofChain c, r.idx = .int 0 → r.parent = Uuid.nil ∧ r.userId = t.userId
  links : ∀ q ∈ s.ofChain c, ∀ r ∈ s.ofChain c, ∀ i : Nat,
    q.idx = .int i → r.idx = .int ((i + 1 : Nat)) → r.parent = q.id
  tip : ∀ r ∈ s.ofChain c, r.idx = .int ((n - 1 : Nat)) → r.id = t.tipId

namespace Store

variable {s : Store} {c : ChainName} {t : Tip}

/-- Under the keys a chain has one tip row at most. -/
theorem KeysHold.tips_of_chain (keys : s.KeysHold) (tip : s.tip? c = some t) :
    s.tips.filter (·.chain = c) = [t] := by
  have apart := keys.tips
  unfold tip? at tip
  generalize s.tips = l at apart tip
  induction l with
  | nil => cases tip
  | cons u l ih =>
      obtain ⟨first, rest⟩ := List.pairwise_cons.1 apart
      by_cases same : u.chain = c
      · rw [List.find?_cons_of_pos (by simpa using same)] at tip
        obtain rfl := Option.some.inj tip
        have others : l.filter (·.chain = c) = [] := by
          refine List.filter_eq_nil_iff.2 fun v member => ?_
          simpa [← same] using Ne.symm (first v member)
        rw [List.filter_cons_of_pos (by simpa using same), others]
      · rw [List.find?_cons_of_neg (by simpa using same)] at tip
        rw [List.filter_cons_of_neg (by simpa using same)]
        exact ih rest tip

theorem tips_of_absent (tip : s.tip? c = none) : s.tips.filter (·.chain = c) = [] := by
  refine List.filter_eq_nil_iff.2 fun u member => ?_
  simpa using tip?_eq_none_iff.1 tip u member

/-- The chains of a sound store are intact. -/
theorem Sound.intact (sound : s.Sound) (tip : s.tip? c = some t) :
    s.Intact c t (s.ofChain c).length := by
  have tops := sound.tops c t tip
  have linked := sound.linked c
  obtain ⟨init, last, split, named, -⟩ := sound.last_of_tip tip
  refine ⟨sound.keys.tips_of_chain tip, ?_, ?_, ?_, ?_, ?_, ?_⟩
  · exact List.length_pos_iff.2 tops.nonempty
  · rw [tops.length]
    exact ⟨Cell.same_counted (sound.bounded c), Cell.counted_of_lt⟩
  · rw [linked.positions, List.range_eq_range']
  · intro r member idx
    obtain ⟨-, found⟩ := linked.getElem?_of_idx member (i := 0) idx
    rw [Nat.sub_zero, ← List.head?_eq_getElem?] at found
    have owner := tops.userId
    rw [found] at owner
    exact ⟨linked.parent_of_head found, Option.some.inj owner⟩
  · intro q hq r hr i before idx
    obtain ⟨-, at_i⟩ := linked.getElem?_of_idx hq before
    obtain ⟨-, at_next⟩ := linked.getElem?_of_idx hr idx
    exact linked.parent_of_getElem? at_i at_next
  · intro r member idx
    obtain ⟨-, found⟩ := linked.getElem?_of_idx member idx
    rw [Nat.sub_zero, ← List.getLast?_eq_getElem?, split, List.getLast?_concat] at found
    rw [← Option.some.inj found, named]

end Store

/-- **The chain invariant.**  Whatever appends are made, and however their look-ups and writes
are interleaved, each chain is absent from both tables or intact in both.  Reading a database
leaves it as it is, so reads in between change nothing. -/
theorem chains_intact (stamp : Option Bool) (moves : List Move) :
    ∃ s, ((Scene.opening stamp).run moves).database.store = .ok s ∧
      ∀ c, (s.tips.filter (·.chain = c) = [] ∧ s.ofChain c = []) ∨ ∃ t n, s.Intact c t n := by
  obtain ⟨s, sound⟩ := Scene.run_sound (Scene.sound_opening stamp) moves
  refine ⟨s, sound.found, fun c => ?_⟩
  cases tip : s.tip? c with
  | none => exact .inl ⟨Store.tips_of_absent tip, sound.store.absent c tip⟩
  | some t => exact .inr ⟨t, _, sound.store.intact tip⟩

/-- The draft of a stored record is given another identifier and another tag, and is appended once
more.  That leaves the chain of the record with a tip row of length one, and with no record. -/
theorem tip_row_of_overwritten_record :
    let c : ChainName := ⟨.ofNat 7, .text "history"⟩
    ∃ s t, Scene.withRecordOverwritten.database.store = .ok s ∧
      Scene.withRecordOverwritten.finished.map (·.outcome.isOk) = [true, true] ∧
      s.tips.filter (·.chain = c) = [t] ∧ t.length = .int 1 ∧ s.ofChain c = [] ∧
      ¬ ((s.tips.filter (·.chain = c) = [] ∧ s.ofChain c = []) ∨ ∃ t n, s.Intact c t n) := by
  intro c
  obtain ⟨-, found, made⟩ := Scene.store_overwritten
  let s : Store := ⟨[.numbered 2 "kv"], [.numbered 1 "history", .numbered 2 "kv"]⟩
  have row : s.tips.filter (·.chain = c) = [.numbered 1 "history"] := rfl
  have gone : s.ofChain c = [] := rfl
  refine ⟨s, .numbered 1 "history", found, made, row, rfl, gone, ?_⟩
  rintro (⟨absent, -⟩ | ⟨t, n, intact⟩)
  · cases row.symm.trans absent
  · have positions := intact.positions
    rw [gone] at positions
    have empty : 0 = n := by simpa using positions.length_eq
    have positive := intact.positive
    omega

end ChainLog
