/-
# The order of identifiers

The canonical texts of identifiers are in the order of their numbers (`Uuid.text_lt_iff`): they are
five fields of digits with hyphens in the same places.  The milliseconds are the topmost field of a
time-ordered identifier, so sorting such identifiers, by number or by text, puts them in the order
of their times, whatever their random bits are (`Uuid.sorted_by_time`).
-/
import ChainLog.Proofs.IdentifierFields
import ChainLog.Proofs.TextOrder

namespace ChainLog

set_option autoImplicit false

open Text

namespace Uuid

variable {u v : Uuid} {ms ms' : Int} {rand rand' w : Nat} {lower : Nat → List Char}

/-! ## Texts -/

/-- A group of digits with a hyphen in front of the lower digits. -/
theorem ranks_group (low : Ranks (16 ^ w) lower) (width : Nat) :
    Ranks (16 ^ (w + width)) fun n => Hex.digits width (n >>> (4 * w)) ++ '-' :: lower n := by
  have shift (n : Nat) : n >>> (4 * w) = n / 16 ^ w := by
    rw [Nat.shiftRight_eq_div_pow, Nat.pow_mul]
  simp only [shift]
  rw [Nat.pow_add]
  exact (Hex.positional.ranks width).append (low.cons '-') (Nat.pow_pos (by decide)) fun m n => by
    rw [Hex.length_digits, Hex.length_digits]

theorem chars_lt_iff : u.chars < v.chars ↔ u.toNat < v.toNat := by
  have ranks := ranks_group (ranks_group (ranks_group (ranks_group (Hex.positional.ranks 12) 4) 4) 4) 8
  have order : u.chars < v.chars ↔ u.toNat % 16 ^ 32 < v.toNat % 16 ^ 32 := ranks u.toNat v.toNat
  have room (w : Uuid) : w.toNat < 16 ^ 32 := w.isLt
  rwa [Nat.mod_eq_of_lt (room u), Nat.mod_eq_of_lt (room v)] at order

theorem text_lt_iff : u.text < v.text ↔ u.toNat < v.toNat := by
  rw [String.lt_iff, text, text, String.toList_ofList, String.toList_ofList, chars_lt_iff]

/-! ## Times -/

/-- The random bits cannot outweigh a millisecond. -/
theorem toNat_lt_of_milliseconds_lt (earlier : u.milliseconds < v.milliseconds) :
    u.toNat < v.toNat := by
  unfold milliseconds at earlier
  omega

/-- Milliseconds of 48 bits are kept as they are. -/
theorem milliseconds_of_fits (least : 0 ≤ ms) (most : ms < 0x1000000000000) (rand : Nat) :
    ((timeOrdered ms rand).milliseconds : Int) = ms := by
  rw [milliseconds_timeOrdered]
  omega

/-! ## Sorting -/

/-- Identifiers in the order of their texts. -/
def sortByText (us : List Uuid) : List Uuid :=
  Sorted.sort (fun a b => !decide (b.text < a.text)) us

theorem sortByText_eq (us : List Uuid) : sortByText us = sortAscending us := by
  have same : (fun a b : Uuid => !decide (b.text < a.text)) = fun a b => decide (a.toNat ≤ b.toNat) := by
    funext a b
    rw [← decide_not]
    simp only [text_lt_iff, Nat.not_lt]
  rw [sortByText, sortAscending, same]

theorem sortAscending_pairwise (us : List Uuid) :
    (sortAscending us).Pairwise fun a b => a.toNat ≤ b.toNat := by
  refine (Sorted.sort_pairwise (fun a b => ?_) (fun a b c => ?_) us).imp (by simp)
  · simp only [decide_eq_false_iff_not, decide_eq_true_eq]
    omega
  · simp only [decide_eq_true_eq]
    omega

/-- The smaller of two elements of an ascending list comes first. -/
theorem index_lt_of_ascending {us : List Uuid} {p q : Nat}
    (ascending : us.Pairwise fun a b => a.toNat ≤ b.toNat) (first : us[p]? = some u)
    (second : us[q]? = some v) (less : u.toNat < v.toNat) : p < q := by
  obtain ⟨inside, rfl⟩ := List.getElem?_eq_some_iff.1 first
  obtain ⟨inside', rfl⟩ := List.getElem?_eq_some_iff.1 second
  rcases Nat.lt_trichotomy p q with before | rfl | after
  · exact before
  · exact absurd less (Nat.lt_irrefl _)
  · exact absurd less (Nat.not_lt.2 (List.pairwise_iff_getElem.1 ascending q p inside' inside after))

/-- Identifiers can be made for any milliseconds. -/
theorem mapM_fresh (items : List (Int × List UInt8)) (clock : Int) :
    items.mapM (fun i => fresh i.2 (.int i.1) clock) =
      .ok (items.map fun i => timeOrdered i.1 (bigEndian i.2)) := by
  have made : (fun i : Int × List UInt8 => fresh i.2 (.int i.1) clock) =
      fun i => pure (timeOrdered i.1 (bigEndian i.2)) := rfl
  rw [made, List.mapM_pure]
  rfl

/-- **Identifiers sort by time.**  Texts of identifiers are in the order of their numbers.  However
many identifiers are made for milliseconds of 48 bits, in whatever order, sorting them by number and
sorting them by text gives one list; the milliseconds in it never decrease, and an identifier that
was made for an earlier millisecond comes before each one that was made for a later. -/
theorem sorted_by_time :
    (∀ u v : Uuid, u.text < v.text ↔ u.toNat < v.toNat) ∧
    ∀ (items : List (Int × List UInt8)) (clock : Int),
      (∀ i ∈ items, 0 ≤ i.1 ∧ i.1 < 0x1000000000000) →
      ∃ us, items.mapM (fun i => fresh i.2 (.int i.1) clock) = .ok us ∧
        sortByText us = sortAscending us ∧ (sortAscending us).Perm us ∧
        ((sortAscending us).Pairwise fun a b => a.milliseconds ≤ b.milliseconds) ∧
        ∀ i ∈ items, ∀ j ∈ items, i.1 < j.1 → ∀ u v, fresh i.2 (.int i.1) clock = .ok u →
          fresh j.2 (.int j.1) clock = .ok v → (u.milliseconds : Int) = i.1 ∧
          ∀ p q : Nat, (sortAscending us)[p]? = some u → (sortAscending us)[q]? = some v → p < q := by
  refine ⟨fun u v => text_lt_iff, fun items clock fits => ⟨_, mapM_fresh items clock,
    sortByText_eq _, Sorted.sort_perm _ _, ?_, ?_⟩⟩
  · exact (sortAscending_pairwise _).imp fun ascending => Nat.not_lt.1 fun later =>
      Nat.not_lt.2 ascending (toNat_lt_of_milliseconds_lt later)
  · intro i first j second earlier u v made made'
    obtain rfl := Except.ok.inj made
    obtain rfl := Except.ok.inj made'
    have time := milliseconds_of_fits (fits i first).1 (fits i first).2 (bigEndian i.2)
    have time' := milliseconds_of_fits (fits j second).1 (fits j second).2 (bigEndian j.2)
    refine ⟨time, fun p q at_p at_q => ?_⟩
    have less := toNat_lt_of_milliseconds_lt
      (u := timeOrdered i.1 (bigEndian i.2)) (v := timeOrdered j.1 (bigEndian j.2)) (by omega)
    exact index_lt_of_ascending (sortAscending_pairwise _) at_p at_q less

/-- Two identifiers of the first millisecond and one of the last, which is made first, with all of
its random bits zero and theirs not. -/
theorem sorted_by_time_of_three :
    let items : List (Int × List UInt8) :=
      [(0xffffffffffff, [0]), (0, List.replicate 10 0xff), (0, [7])]
    ∃ us, items.mapM (fun i => fresh i.2 (.int i.1) 0) = .ok us ∧
      sortByText us = sortAscending us ∧
      ∀ p q : Nat, (sortAscending us)[p]? = some (timeOrdered 0 7) →
        (sortAscending us)[q]? = some (timeOrdered 0xffffffffffff 0) → p < q := by
  intro items
  obtain ⟨us, made, same, -, -, before⟩ := sorted_by_time.2 items 0 (by decide)
  refine ⟨us, made, same, ?_⟩
  exact (before (0, [7]) (by decide) (0xffffffffffff, [0]) (by decide) (by decide) _ _ rfl rfl).2

end Uuid

end ChainLog
