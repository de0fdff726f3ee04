/-
# Paging

A reading asks for one page after the other and finds the records of its window from its start on,
whatever the size of the pages (`pagesFrom_of_finds`), if each page finds the same records in it
(`Chain.Finds`).  Nothing is asked of their links: they only have to stand at integers, each at its
own (`Ordered`).  A page that is not empty moves the position past its last record, and what stands
behind that record is what remains to be read (`page_cases`); the fuel of the reading counts the
positions down.

The end of a reading is a cell: an integer, or a floating-point value, which need not be whole.
`Cell.Ends` says which integers are below it.
-/
import ChainLog.Chain.Lemmas
import ChainLog.Proofs.AppendHalves
import ChainLog.Proofs.LinkedChain

namespace ChainLog

set_option autoImplicit false

/-! ## Ends -/

namespace Cell

variable {a : Cell} {n i : Int} {p : Nat} {bits : UInt64}

/-- The cell is a number, and a parameter; the integers below `n` are those below it. -/
structure Ends (a : Cell) (n : Int) : Prop where
  rank : a.rank = 0
  below : ∀ i : Int, (int i).below a = decide (i < n)
  parameter : a.parameter = .ok a

theorem ends_int (word : IsWord n) : (int n).Ends n :=
  ⟨rfl, fun _ => below_int, parameter_int word⟩

theorem below_real : (int i).below (real bits) = decide (i * unit < steps bits) :=
  below_of_numbers rfl rfl

theorem ends_real (least : steps bits ≤ n * unit) (greater : (n - 1) * unit < steps bits) :
    (real bits).Ends n := by
  refine ⟨rfl, fun i => ?_, rfl⟩
  rw [below_real]
  refine decide_eq_decide.2 ⟨fun less => ?_, fun less => ?_⟩
  · exact Int.lt_of_mul_lt_mul_right (Int.lt_of_lt_of_le less least) (Int.le_of_lt unit_pos)
  · have before : i ≤ n - 1 := by omega
    exact Int.lt_of_le_of_lt (Int.mul_le_mul_of_nonneg_right before (Int.le_of_lt unit_pos)) greater

theorem ends_counted (h : p ≤ 0x8000000000000000) : (counted p).Ends p := by
  by_cases room : p < 0x8000000000000000
  · rw [counted_of_lt room]
    exact ends_int ⟨by omega, by omega⟩
  · obtain rfl : p = 0x8000000000000000 := by omega
    have value := steps_two_pow_63
    refine ends_real (Int.le_of_eq value) ?_
    rw [value]
    exact Int.mul_lt_mul_of_pos_right (by decide) unit_pos

theorem Ends.isBelow? (ends : a.Ends n) : (int i).isBelow? a = .ok (decide (i < n)) := by
  have same : (int i).rank = a.rank := ends.rank.symm
  rw [isBelow?_of_rank same, ends.below]

theorem Ends.atMost (ends : a.Ends n) : a.atMost (int n) = true := by
  rw [atMost_eq_not_below, ends.below, decide_eq_false (Int.lt_irrefl n)]
  rfl

/-- A number ends the integers below it. -/
theorem exists_ends {a : Cell} (number : a.rank = 0) (stored : a.parameter = .ok a) :
    ∃ n, a.Ends n ∧ (a.atMost (.int 0x8000000000000000) = true → n ≤ 0x8000000000000000) := by
  cases a with
  | int m =>
      refine ⟨m, ends_int (isWord_of_parameter stored), fun bounded => ?_⟩
      rwa [atMost_int, decide_eq_true_eq] at bounded
  | real bits =>
      have positive := unit_pos
      -- The least whole number that is not below the value.
      let n := -(-steps bits / unit)
      have least : steps bits ≤ n * unit := by
        have floor := Int.ediv_mul_le (-steps bits) (Int.ne_of_gt positive)
        simp only [n, Int.neg_mul]
        omega
      have greater : (n - 1) * unit < steps bits := by
        have floor := Int.lt_ediv_add_one_mul_self (-steps bits) positive
        simp only [n, Int.sub_mul, Int.neg_mul, Int.add_mul] at floor ⊢
        omega
      refine ⟨n, ends_real least greater, fun bounded => ?_⟩
      rw [atMost_eq_not_below, below_real, Bool.not_eq_true', decide_eq_false_iff_not,
        Int.not_lt] at bounded
      have before : (n - 1) * unit < 0x8000000000000000 * unit :=
        Int.lt_of_lt_of_le greater bounded
      have below := Int.lt_of_mul_lt_mul_right before (Int.le_of_lt positive)
      omega
  | text x => cases number
  | blob content => cases number

/-- There is an integer that a number is not above. -/
theorem exists_atMost_int {a : Cell} (number : a.rank = 0) : ∃ n : Int, a.atMost (int n) = true := by
  cases a with
  | int n => exact ⟨n, atMost_refl _⟩
  | real bits =>
      obtain ⟨n, ends, -⟩ := exists_ends (show (real bits).rank = 0 from rfl) rfl
      exact ⟨n, ends.atMost⟩
  | text x => cases number
  | blob content => cases number

end Cell

/-- The pages are enough for all integers up to the end. -/
theorem Cell.Ends.le_pageBound {stop : Cell} {n p : Int} (ends : stop.Ends n) :
    n ≤ p + Chain.pageBound (.int p) stop := by
  have last : (Cell.int (n - 1)).below stop = true := by
    rw [ends.below, decide_eq_true_eq]
    omega
  cases stop with
  | int m =>
      rw [below_int, decide_eq_true_eq] at last
      simp only [Chain.pageBound]
      omega
  | real bits =>
      rw [below_real, decide_eq_true_eq] at last
      have distance : n - 1 - p ≤ ((Cell.real bits).number - (Cell.int p).number) / Cell.unit := by
        refine Int.le_ediv_of_mul_le unit_pos ?_
        simp only [Cell.number, Int.sub_mul] at last ⊢
        omega
      simp only [Chain.pageBound]
      omega
  | text s => cases ends.rank
  | blob content => cases ends.rank

/-- A number is not above the last of the integers that there are pages for. -/
theorem Cell.atMost_pageBound {stop : Cell} (number : stop.rank = 0) (p : Int) :
    stop.atMost (.int (p + Chain.pageBound (.int p) stop)) = true := by
  cases stop with
  | int n =>
      rw [atMost_int, decide_eq_true_eq]
      simp only [Chain.pageBound]
      omega
  | real bits =>
      obtain ⟨n, ends, -⟩ := exists_ends (show (real bits).rank = 0 from rfl) rfl
      refine atMost_trans ends.atMost ?_
      rw [atMost_int, decide_eq_true_eq]
      exact ends.le_pageBound
  | text x => cases number
  | blob content => cases number

/-! ## Ordered records -/

/-- The records stand at integers below an end, each at its own, in order. -/
structure Ordered (l : List Record) (n : Int) : Prop where
  strict : l.Pairwise fun a b => a.idx.below b.idx = true
  placed : ∀ r ∈ l, ∃ i : Int, r.idx = .int i ∧ i < n

/-- The records at a position or after it, which a reading at that position has still to read. -/
def remaining (p : Int) (l : List Record) : List Record :=
  l.filter fun r => (Cell.int p).atMost r.idx

variable {l : List Record} {n p i : Int} {r : Record}

theorem mem_remaining (idx : r.idx = .int i) : r ∈ remaining p l ↔ r ∈ l ∧ p ≤ i := by
  simp [remaining, idx]

theorem remaining_eq_nil (before : ∀ r ∈ l, r.idx.below (.int p) = true) : remaining p l = [] := by
  refine List.filter_eq_nil_iff.2 fun r member => ?_
  rw [Cell.atMost_eq_not_below, before r member]
  exact Bool.false_ne_true

theorem remaining_eq_self (after : ∀ r ∈ l, (Cell.int p).atMost r.idx = true) : remaining p l = l :=
  List.filter_eq_self.2 after

namespace Ordered

theorem remaining_of_le (ordered : Ordered l n) (past : n ≤ p) : remaining p l = [] := by
  refine remaining_eq_nil fun r member => ?_
  obtain ⟨i, idx, inside⟩ := ordered.placed r member
  rw [idx, Cell.below_int, decide_eq_true_eq]
  omega

/-- What remains at a later position remains of what remains at an earlier one. -/
theorem remaining_remaining (ordered : Ordered l n) {q : Int} (later : p ≤ q) :
    remaining q (remaining p l) = remaining q l := by
  rw [remaining, remaining, remaining, List.filter_filter]
  refine List.filter_congr fun r member => ?_
  obtain ⟨j, position, -⟩ := ordered.placed r member
  simp only [position, Cell.atMost_int, ← Bool.decide_and]
  exact decide_eq_decide.2 (by omega)

theorem rest (ordered : Ordered l n) (p : Int) : Ordered (remaining p l) n :=
  ⟨ordered.strict.filter _, fun r member => ordered.placed r (List.mem_filter.1 member).1⟩

/-- What remains past one of the records are those behind it. -/
theorem remaining_split {init rest : List Record} {last : Record}
    (ordered : Ordered (init ++ last :: rest) n) (idx : last.idx = .int i) :
    remaining (i + 1) (init ++ last :: rest) = rest := by
  obtain ⟨-, behind, before⟩ := List.pairwise_append.1 ordered.strict
  have none_before : remaining (i + 1) init = [] := by
    refine remaining_eq_nil fun r member => ?_
    have next : last.idx.atMost (.int (i + 1)) = true := by
      rw [idx, Cell.atMost_int, decide_eq_true_eq]
      omega
    exact Cell.below_of_below_of_atMost (before r member last List.mem_cons_self) next
  have all_behind : remaining (i + 1) rest = rest := by
    refine remaining_eq_self fun r member => ?_
    obtain ⟨j, position, -⟩ := ordered.placed r (by simp [member])
    have later := (List.pairwise_cons.1 behind).1 r member
    rw [position, idx, Cell.below_int, decide_eq_true_eq] at later
    rw [position, Cell.atMost_int, decide_eq_true_eq]
    omega
  have not_last : ¬ (Cell.int (i + 1)).atMost last.idx = true := by
    rw [idx, Cell.atMost_int, decide_eq_true_eq]
    omega
  unfold remaining at *
  rw [List.filter_append, none_before, List.filter_cons, if_neg not_last, all_behind,
    List.nil_append]

/-- What remains past a record that is read is what is read after it. -/
theorem remaining_succ (ordered : Ordered l n) {init rest : List Record} {last : Record}
    (split : remaining p l = init ++ last :: rest) (idx : last.idx = .int i) :
    p ≤ i ∧ remaining (i + 1) l = rest := by
  have within : last ∈ remaining p l := by rw [split]; simp
  obtain ⟨-, after⟩ := (mem_remaining idx).1 within
  have left := ordered.rest p
  rw [split] at left
  refine ⟨after, ?_⟩
  rw [← ordered.remaining_remaining (Int.le_trans after (by omega : i ≤ i + 1)), split,
    left.remaining_split idx]

end Ordered

/-- The window from a later position on is what remains of the window there. -/
theorem Store.window_eq_remaining {s : Store} {c : ChainName} {stop : Cell} {q : Int} (later : p ≤ q) :
    s.window c (.int q) stop = remaining q (s.window c (.int p) stop) := by
  have part := @Sorted.sort_filter Record (fun a b => a.idx.atMost b.idx)
    (fun r => (Cell.int q).atMost r.idx) (fun _ _ => Cell.atMost_total) fun _ _ _ => Cell.atMost_trans
  unfold window remaining
  rw [part, List.filter_filter]
  congr 1
  refine List.filter_congr fun r _ => ?_
  have onward : (Cell.int p).atMost (.int q) = true := by
    rw [Cell.atMost_int, decide_eq_true_eq]
    exact later
  cases stands : (Cell.int q).atMost r.idx with
  | false => rfl
  | true => simp only [Cell.atMost_trans onward stands, Bool.true_and]

/-! ## Pages -/

/-- A page has the first records of a window, and some if there are any. -/
theorem Store.limit_eq_take {α : Type} {size : Int} (nonzero : size ≠ 0) (l : List α) :
    ∃ k, limit size l = l.take (k + 1) := by
  unfold limit
  split
  · exact ⟨l.length, (List.take_of_length_le (by omega)).symm⟩
  · exact ⟨size.toNat - 1, by rw [show size.toNat - 1 + 1 = size.toNat by omega]⟩

/-- A page of ordered records is empty only if none remain; after its last record the others
go on. -/
theorem Ordered.page_cases (ordered : Ordered l n) {size : Int} (nonzero : size ≠ 0) (p : Int) :
    (remaining p l = [] ∧ Store.limit size (remaining p l) = []) ∨
      ∃ init last i, Store.limit size (remaining p l) = init ++ [last] ∧
        remaining p l = init ++ last :: remaining (i + 1) l ∧ last.idx = .int i ∧ p ≤ i := by
  obtain ⟨k, limit⟩ := Store.limit_eq_take nonzero (remaining p l)
  by_cases empty : remaining p l = []
  · refine .inl ⟨empty, ?_⟩
    rw [limit, empty]
    rfl
  · have nonempty : (remaining p l).take (k + 1) ≠ [] := by
      rw [Ne, List.take_eq_nil_iff]
      exact fun h => h.elim (Nat.succ_ne_zero k) empty
    obtain ⟨init, last, taken⟩ : ∃ init last, (remaining p l).take (k + 1) = init ++ [last] :=
      ⟨_, _, (List.dropLast_concat_getLast nonempty).symm⟩
    have split : remaining p l = init ++ last :: (remaining p l).drop (k + 1) := by
      rw [← List.singleton_append, ← List.append_assoc, ← taken, List.take_append_drop]
    have member : last ∈ remaining p l := List.mem_of_mem_take (by rw [taken]; simp)
    obtain ⟨i, idx, -⟩ := ordered.placed last (List.mem_filter.1 member).1
    obtain ⟨after, rest⟩ := ordered.remaining_succ split idx
    exact .inr ⟨init, last, i, limit.trans taken, by rw [rest]; exact split, idx, after⟩

namespace Chain

variable {view : Nat → Database} {k : Chain} {stop : Cell} {start : Int}

/-- Each page read, from the start on, finds the same records in its window: those that remain at
its position. -/
def Finds (k : Chain) (view : Nat → Database) (start : Int) (stop : Cell) (l : List Record) : Prop :=
  ∀ i, ∃ t, (view i).store = .ok t ∧
    ∀ p, start ≤ p → t.window k.name (.int p) stop = remaining p l

theorem Finds.page (finds : k.Finds view start stop l) (word : IsWord k.pageSize)
    (ends : stop.Ends n) (onward : start ≤ p) (position : IsWord p) (i : Nat) :
    (view i).page k (.int p) stop = .ok (Store.limit k.pageSize (remaining p l)) := by
  obtain ⟨t, found, window⟩ := finds i
  rw [← window p onward]
  exact (Database.page_eq_ok_iff found).2
    ⟨Cell.parameter_int position, ends.parameter, word, rfl⟩

/-- No page can be asked for from a position past the last integer of 64 bits. -/
theorem Finds.no_page (finds : k.Finds view start stop l) (past : 0x8000000000000000 ≤ p) (i : Nat) :
    ∃ e, (view i).page k (.int p) stop = .error e := by
  obtain ⟨t, found, -⟩ := finds i
  have no_word : ¬ IsWord p := fun word => by
    have := word.2
    omega
  have refused : (Cell.int p).parameter = .error .tooLarge := by
    rw [Cell.parameter, if_neg no_word]
  unfold Database.page
  rw [found, refused]
  exact ⟨_, rfl⟩

/-- A reading has all the records from its start on.  It can fail after them only, where the end is
past all 64-bit integers and so is the position that it has come to. -/
theorem pagesFrom_of_finds (word : IsWord k.pageSize) (nonzero : k.pageSize ≠ 0)
    (ends : stop.Ends n) (ordered : Ordered l n) (finds : k.Finds view start stop l)
    (least : -0x8000000000000000 ≤ start)
    (stored : ∀ r ∈ l, r.idx.below (.int 0x8000000000000000) = true) (fuel i : Nat) (p : Int)
    (onward : start ≤ p) (enough : n ≤ p + fuel) :
    ∃ failure?, k.pagesFrom view stop fuel i (.int p) = ⟨remaining p l, failure?⟩ ∧
      (failure? ≠ none → 0x8000000000000000 < n ∧
        (0x8000000000000000 ≤ p ∨ ∃ r ∈ l, r.idx = .int 0x7fffffffffffffff)) := by
  induction fuel generalizing i p with
  | zero =>
      refine ⟨none, ?_, fun failed => absurd rfl failed⟩
      rw [ordered.remaining_of_le (by omega)]
      rfl
  | succ fuel ih =>
      unfold pagesFrom
      rw [ends.isBelow?]
      by_cases position : p < n
      · simp only [position, decide_true]
        by_cases room : p < 0x8000000000000000
        · simp only [finds.page word ends onward ⟨by omega, room⟩ i]
          rcases ordered.page_cases nonzero p with
            ⟨none, empty⟩ | ⟨init, last, j, page, split, idx, after⟩
          · refine ⟨Option.none, ?_, fun failed => absurd rfl failed⟩
            rw [empty, none]
            rfl
          · have next : last.idx.next? = .ok (.int (j + 1)) := by
              rw [idx]
              rfl
            have further : last.idx.below (.int (j + 1)) = true := by
              rw [idx, Cell.below_int, decide_eq_true_eq]
              omega
            obtain ⟨failure?, later, only⟩ := ih (i + 1) (j + 1) (by omega) (by omega)
            refine ⟨failure?, ?_, fun failed => ?_⟩
            · simp only [page, List.getLast?_concat, next, further, if_true, later, Reading.after]
              rw [split, ← List.append_cons]
            · obtain ⟨far, past | found⟩ := only failed
              · have member : last ∈ l :=
                  (List.mem_filter.1 (show last ∈ remaining p l by rw [split]; simp)).1
                have inside := stored last member
                rw [idx, Cell.below_int, decide_eq_true_eq] at inside
                exact ⟨far, .inr ⟨last, member, by rw [idx]; congr 1; omega⟩⟩
              · exact ⟨far, .inr found⟩
        · obtain ⟨e, fails⟩ := finds.no_page (Int.not_lt.1 room) i
          refine ⟨some (.storage e), ?_, fun _ => ⟨by omega, .inl (Int.not_lt.1 room)⟩⟩
          have past : (Cell.int 0x8000000000000000).atMost (.int p) = true := by
            rw [Cell.atMost_int, decide_eq_true_eq]
            omega
          rw [fails, remaining_eq_nil fun r member =>
            Cell.below_of_below_of_atMost (stored r member) past]
          rfl
      · refine ⟨none, ?_, fun failed => absurd rfl failed⟩
        rw [ordered.remaining_of_le (by omega)]
        simp [position, Reading.finished]

end Chain

end ChainLog
