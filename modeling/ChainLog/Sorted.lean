/-
# Sorting by insertion

The lists that have to be put in order here are short, or already nearly in
order: a chain's records are stored in the order of their positions.
-/

namespace ChainLog.Sorted

set_option autoImplicit false

variable {α : Type}

def insert (le : α → α → Bool) (a : α) : List α → List α
  | [] => [a]
  | b :: r => if le a b then a :: b :: r else b :: insert le a r

/-- The elements in ascending order; equal ones keep their order. -/
def sort (le : α → α → Bool) (l : List α) : List α :=
  l.foldr (insert le) []

theorem insert_perm (le : α → α → Bool) (a : α) (l : List α) : (insert le a l).Perm (a :: l) := by
  induction l with
  | nil => exact List.Perm.refl _
  | cons b r ih =>
      simp only [insert]
      split
      · exact List.Perm.refl _
      · exact (List.Perm.cons b ih).trans (List.Perm.swap a b r)

theorem sort_perm (le : α → α → Bool) (l : List α) : (sort le l).Perm l := by
  induction l with
  | nil => exact List.Perm.refl _
  | cons a r ih => exact (insert_perm le a _).trans (List.Perm.cons a ih)

theorem mem_sort {le : α → α → Bool} {a : α} {l : List α} : a ∈ sort le l ↔ a ∈ l :=
  (sort_perm le l).mem_iff

/-- Inserting into an ascending list gives an ascending list. -/
theorem insert_pairwise {le : α → α → Bool} (total : ∀ a b, le a b = false → le b a = true)
    (trans : ∀ a b c, le a b = true → le b c = true → le a c = true) (a : α) {l : List α}
    (ascending : l.Pairwise (le · · = true)) : (insert le a l).Pairwise (le · · = true) := by
  induction l with
  | nil => exact List.pairwise_singleton _ _
  | cons b r ih =>
      obtain ⟨first, rest⟩ := List.pairwise_cons.1 ascending
      simp only [insert]
      split
      · rename_i le_b
        refine List.pairwise_cons.2 ⟨fun c member => ?_, ascending⟩
        rcases List.mem_cons.1 member with rfl | inRest
        · exact le_b
        · exact trans a b c le_b (first c inRest)
      · rename_i not_le
        refine List.pairwise_cons.2 ⟨fun c member => ?_, ih rest⟩
        rcases List.mem_cons.1 ((insert_perm le a r).mem_iff.1 member) with rfl | inRest
        · exact total c b (by simpa using not_le)
        · exact first c inRest

theorem sort_pairwise {le : α → α → Bool} (total : ∀ a b, le a b = false → le b a = true)
    (trans : ∀ a b c, le a b = true → le b c = true → le a c = true) (l : List α) :
    (sort le l).Pairwise (le · · = true) := by
  induction l with
  | nil => exact .nil
  | cons a r ih => exact insert_pairwise total trans a ih

/-- An element that is at most all others comes first. -/
theorem insert_of_atMost {le : α → α → Bool} {a : α} {l : List α} (first : ∀ b ∈ l, le a b = true) :
    insert le a l = a :: l := by
  cases l with
  | nil => rfl
  | cons b r => simp only [insert, first b List.mem_cons_self, if_true]

/-- A list that is in order is sorted already. -/
theorem sort_of_pairwise {le : α → α → Bool} {l : List α} (ascending : l.Pairwise (le · · = true)) :
    sort le l = l := by
  induction l with
  | nil => rfl
  | cons a l ih =>
      obtain ⟨first, rest⟩ := List.pairwise_cons.1 ascending
      have sorted : sort le (a :: l) = insert le a (sort le l) := rfl
      rw [sorted, ih rest, insert_of_atMost first]

theorem insert_filter {le : α → α → Bool} {p : α → Bool}
    (trans : ∀ a b c, le a b = true → le b c = true → le a c = true) (a : α) {l : List α}
    (ascending : l.Pairwise (le · · = true)) :
    (insert le a l).filter p = if p a then insert le a (l.filter p) else l.filter p := by
  induction l with
  | nil => simp only [insert, List.filter_cons, List.filter_nil]
  | cons b r ih =>
      obtain ⟨first, rest⟩ := List.pairwise_cons.1 ascending
      simp only [insert]
      split
      · rename_i le_b
        have before : ∀ c ∈ (b :: r).filter p, le a c = true := by
          intro c member
          rcases List.mem_cons.1 (List.mem_filter.1 member).1 with rfl | inRest
          · exact le_b
          · exact trans a b c le_b (first c inRest)
        rw [insert_of_atMost before, List.filter_cons]
      · rename_i not_le
        rw [List.filter_cons, List.filter_cons, ih rest]
        by_cases kept : p b = true
        · simp only [kept, if_true, insert, not_le]
          split <;> rfl
        · simp only [kept]
          rfl

/-- A part of a list is in the order that it has in the whole. -/
theorem sort_filter {le : α → α → Bool} {p : α → Bool}
    (total : ∀ a b, le a b = false → le b a = true)
    (trans : ∀ a b c, le a b = true → le b c = true → le a c = true) (l : List α) :
    (sort le l).filter p = sort le (l.filter p) := by
  induction l with
  | nil => rfl
  | cons a l ih =>
      have sorted : sort le (a :: l) = insert le a (sort le l) := rfl
      rw [sorted, insert_filter trans a (sort_pairwise total trans l), ih, List.filter_cons]
      split <;> rfl

theorem insert_map {β : Type} {f : α → β} {le : α → α → Bool} {le' : β → β → Bool}
    (same : ∀ a b, le' (f a) (f b) = le a b) (a : α) (l : List α) :
    insert le' (f a) (l.map f) = (insert le a l).map f := by
  induction l with
  | nil => rfl
  | cons b r ih =>
      simp only [List.map_cons, insert, same, ih]
      split <;> rfl

/-- A map that keeps the order of the elements can be done before sorting. -/
theorem sort_map {β : Type} {f : α → β} {le : α → α → Bool} {le' : β → β → Bool}
    (same : ∀ a b, le' (f a) (f b) = le a b) (l : List α) :
    sort le' (l.map f) = (sort le l).map f := by
  induction l with
  | nil => rfl
  | cons a r ih =>
      have sorted : sort le' ((a :: r).map f) = insert le' (f a) (sort le' (r.map f)) := rfl
      rw [sorted, ih, insert_map same]
      rfl

/-- Compare by one key after the other. -/
def lexicographic : List (α → α → Ordering) → α → α → Ordering
  | [], _, _ => .eq
  | c :: r, a, b => (c a b).then (lexicographic r a b)

/-- At most, by a comparison. -/
def atMost (c : α → α → Ordering) (a b : α) : Bool := c a b != .gt

end ChainLog.Sorted
