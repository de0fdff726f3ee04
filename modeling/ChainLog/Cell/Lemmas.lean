/-
# Laws of the order of cells

The order is oriented and transitive, so `atMost` is total (`atMost_total`) and
transitive (`atMost_trans`), and what is at most another cell and not the same is
below it (`below_of_atMost`).  Numbers are compared by their values, whatever their
kinds (`order_of_numbers`); between integers all comparisons are those of the
integers.
-/
import ChainLog.Cell.Column

namespace ChainLog.Cell

set_option autoImplicit false

variable {a b c : Cell} {m n : Int}

theorem unit_pos : 0 < unit := by decide

theorem compare_mul_unit : compare (m * unit) (n * unit) = compare m n := by
  have lt : m * unit < n * unit ↔ m < n := Int.mul_lt_mul_right unit_pos
  have eq : m * unit = n * unit ↔ m = n := Int.mul_eq_mul_right_iff (Int.ne_of_gt unit_pos)
  change compareOfLessAndEq _ _ = compareOfLessAndEq _ _
  simp only [compareOfLessAndEq, lt, eq]

theorem order_eq_orderByAspects (a b : Cell) : order a b = orderByAspects a b := by
  unfold order
  split
  · simp [orderByAspects, rank, number, characters, octets, compare_mul_unit, List.compareLex]
  · rfl

instance : Std.TransCmp order := by
  have lawful : Std.TransCmp orderByAspects :=
    inferInstanceAs (Std.TransCmp (compareLex (compareOn rank) (compareLex (compareOn number)
      (compareLex (compareOn characters) (compareOn octets)))))
  have agree : order = orderByAspects :=
    funext fun a => funext fun b => order_eq_orderByAspects a b
  rw [agree]
  exact lawful

/-! ## Any two cells -/

theorem same_refl (a : Cell) : a.same a = true := by
  simp [same, Std.ReflCmp.compare_self]

theorem order_swap (a b : Cell) : order a b = (order b a).swap := Std.OrientedCmp.eq_swap

theorem atMost_refl (a : Cell) : a.atMost a = true := by
  simp [atMost, Std.ReflCmp.compare_self]

theorem same_comm : a.same b = b.same a := by
  simp only [same]
  rw [order_swap a b]
  cases order b a <;> rfl

theorem atMost_total (h : a.atMost b = false) : b.atMost a = true := by
  simp only [atMost, bne_eq_false_iff_eq] at h
  rw [order_swap] at h
  simp only [atMost]
  cases ord : order b a <;> simp_all

theorem atMost_trans (hab : a.atMost b = true) (hbc : b.atMost c = true) : a.atMost c = true := by
  simp only [atMost, bne_iff_ne, ne_eq, ← Ordering.isLE_iff_ne_gt] at *
  exact Std.TransCmp.isLE_trans hab hbc

theorem below_of_atMost (h : a.atMost b = true) (different : ¬ a.same b = true) :
    a.below b = true := by
  simp only [atMost, same, below] at *
  cases ord : order a b <;> simp_all

theorem atMost_eq_not_below : a.atMost b = !b.below a := by
  simp only [atMost, below]
  rw [order_swap a b]
  cases order b a <;> rfl

theorem atMost_of_below (h : a.below b = true) : a.atMost b = true := by
  simp only [below, atMost, beq_iff_eq] at h ⊢
  rw [h]
  rfl

theorem below_of_below_of_atMost (hab : a.below b = true) (hbc : b.atMost c = true) :
    a.below c = true := by
  simp only [below, atMost, beq_iff_eq, bne_iff_ne, ne_eq, ← Ordering.isLE_iff_ne_gt] at *
  exact Std.TransCmp.lt_of_lt_of_isLE hab hbc

theorem below_of_atMost_of_below (hab : a.atMost b = true) (hbc : b.below c = true) :
    a.below c = true := by
  simp only [below, atMost, beq_iff_eq, bne_iff_ne, ne_eq, ← Ordering.isLE_iff_ne_gt] at *
  exact Std.TransCmp.lt_of_isLE_of_lt hab hbc

theorem not_same_of_below (h : a.below b = true) : b.same a = false := by
  rw [same_comm]
  simp only [below, same, beq_iff_eq] at h ⊢
  rw [h]
  rfl

theorem same_trans (hab : a.same b = true) (hbc : b.same c = true) : a.same c = true := by
  simp only [same, beq_iff_eq] at *
  exact Std.TransCmp.eq_trans hab hbc

/-- Cells of one value stand alike to all others. -/
theorem order_congr (h : a.same b = true) : order c a = order c b :=
  Std.TransCmp.congr_right (by simpa only [same, beq_iff_eq] using h)

theorem below_congr (h : a.same b = true) : c.below a = c.below b := by
  rw [below, below, order_congr h]

theorem below_congr_left (h : a.same b = true) : a.below c = b.below c := by
  rw [below, below, order_swap a c, order_swap b c, order_congr h]

theorem atMost_congr (h : a.same b = true) : c.atMost a = c.atMost b := by
  rw [atMost, atMost, order_congr h]

/-! ## Numbers -/

/-- Numbers are ordered by their values, whatever their kinds. -/
theorem order_of_numbers (left : a.rank = 0) (right : b.rank = 0) :
    order a b = compare a.number b.number := by
  have texts (c : Cell) (number : c.rank = 0) : c.characters = "" ∧ c.octets = [] := by
    cases c with
    | int n => exact ⟨rfl, rfl⟩
    | real bits => exact ⟨rfl, rfl⟩
    | text x => cases number
    | blob content => cases number
  rw [order_eq_orderByAspects]
  simp only [orderByAspects, left, right, texts a left, texts b right, List.compareLex]
  cases compare a.number b.number <;> rfl

theorem below_of_numbers (left : a.rank = 0) (right : b.rank = 0) :
    a.below b = decide (a.number < b.number) := by
  rw [below, order_of_numbers left right]
  by_cases less : a.number < b.number
  · rw [Int.compare_eq_lt.2 less, decide_eq_true less]
    rfl
  · rw [decide_eq_false less, beq_eq_false_iff_ne, Ne, Int.compare_eq_lt]
    exact less

theorem atMost_of_numbers (left : a.rank = 0) (right : b.rank = 0) :
    a.atMost b = decide (a.number ≤ b.number) := by
  rw [atMost_eq_not_below, below_of_numbers right left, ← decide_not]
  exact decide_eq_decide.2 Int.not_lt

theorem rank_le_of_atMost (h : a.atMost b = true) : a.rank ≤ b.rank := by
  rw [atMost, order_eq_orderByAspects, bne_iff_ne] at h
  refine Nat.not_lt.1 fun beyond => h ?_
  have greater : compare a.rank b.rank = .gt := Nat.compare_eq_gt.2 beyond
  rw [orderByAspects, greater]
  rfl

theorem isBelow?_of_rank (same : a.rank = b.rank) : a.isBelow? b = .ok (a.below b) :=
  if_pos same

theorem isBelow?_of_rank_ne (differ : a.rank ≠ b.rank) :
    a.isBelow? b = .error (.notOrdered a.value.typeName b.value.typeName) :=
  if_neg differ

theorem isBelow?_eq_true_iff : a.isBelow? b = .ok true ↔ a.rank = b.rank ∧ a.below b = true := by
  by_cases same : a.rank = b.rank
  · rw [isBelow?_of_rank same, Except.ok.injEq]
    exact ⟨fun less => ⟨same, less⟩, And.right⟩
  · rw [isBelow?_of_rank_ne same]
    exact ⟨nofun, fun both => absurd both.1 same⟩

/-! ## Integers -/

@[simp]
theorem below_int : (int m).below (int n) = decide (m < n) := by
  change (compareOfLessAndEq m n == .lt) = _
  unfold compareOfLessAndEq
  split
  · rename_i h
    simp [h]
  · rename_i h
    split <;> simp [h]

@[simp]
theorem same_int : (int m).same (int n) = decide (m = n) := by
  change (compareOfLessAndEq m n == .eq) = _
  unfold compareOfLessAndEq
  split
  · rename_i h
    simp [Int.ne_of_lt h]
  · split <;> simp_all

@[simp]
theorem atMost_int : (int m).atMost (int n) = decide (m ≤ n) := by
  change (compareOfLessAndEq m n != .gt) = _
  unfold compareOfLessAndEq
  split
  · rename_i h
    simp [Int.le_of_lt h]
  · split
    · rename_i h
      simp [h]
    · rename_i ge ne
      simp
      omega

/-- A cell is the same as one integer at most. -/
theorem int_unique (left : a.same (int m) = true) (right : a.same (int n) = true) : m = n := by
  have both := same_trans (same_comm.trans left) right
  rwa [same_int, decide_eq_true_eq] at both

theorem lt_of_below (h : a.below b = true) (left : a.same (int m) = true)
    (right : b.same (int n) = true) : m < n := by
  rwa [below_congr right, below_congr_left left, below_int, decide_eq_true_eq] at h

theorem increased_int (h : IsWord (n + 1)) : (int n).increased = int (n + 1) := by
  simp [increased, summand, h]

/-! ## Parameters -/

theorem parameter_int (h : IsWord n) : (int n).parameter = .ok (int n) := by
  simp [parameter, h]

theorem isWord_of_parameter (h : (int n).parameter = .ok a) : IsWord n := by
  unfold parameter at h
  split at h
  · rename_i m same
    split at h
    · rename_i word
      rwa [int.inj same]
    · cases h
  · rename_i other
    exact absurd rfl (other n)

theorem parameter_eq_ok (h : a.parameter = .ok b) : b = a := by
  unfold parameter at h
  split at h
  · split at h
    · exact (Except.ok.inj h).symm
    · cases h
  · exact (Except.ok.inj h).symm

end ChainLog.Cell
