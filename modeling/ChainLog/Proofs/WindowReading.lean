/-
# Reading a window

The window of a chain from its beginning has its records at positions from 0 on (`Ascending`), and
a reading from a position on has those that stand from there on (`standingFrom`), whatever the
size of the pages (`pagesFrom_of_sees`), if each page read finds the same records (`Chain.Sees`).
These are readings of ordered records that begin at a natural number.
-/
import ChainLog.Proofs.Paging

namespace ChainLog

set_option autoImplicit false

/-! ## Ascending records -/

/-- The records stand at integers from 0 on and below an end, each at its own, in order. -/
structure Ascending (l : List Record) (n : Int) : Prop where
  strict : l.Pairwise fun a b => a.idx.below b.idx = true
  placed : ∀ r ∈ l, ∃ i : Nat, r.idx = .int i ∧ (i : Int) < n

/-- The records at a position or after it. -/
def standingFrom (p : Nat) (l : List Record) : List Record :=
  l.filter fun r => (Cell.int p).atMost r.idx

variable {l : List Record} {n : Int} {p i : Nat} {r : Record}

theorem standingFrom_eq_remaining (p : Nat) (l : List Record) : standingFrom p l = remaining p l := rfl

theorem Ascending.ordered (ascending : Ascending l n) : Ordered l n := by
  refine ⟨ascending.strict, fun r member => ?_⟩
  obtain ⟨i, idx, inside⟩ := ascending.placed r member
  exact ⟨i, idx, inside⟩

theorem mem_standingFrom (idx : r.idx = .int i) : r ∈ standingFrom p l ↔ r ∈ l ∧ p ≤ i := by
  rw [standingFrom_eq_remaining, mem_remaining idx, Int.ofNat_le]

theorem Ascending.standingFrom_of_le (ascending : Ascending l n) (past : n ≤ p) :
    standingFrom p l = [] :=
  ascending.ordered.remaining_of_le past

theorem Ascending.standing (ascending : Ascending l n) (p : Nat) : Ascending (standingFrom p l) n :=
  ⟨ascending.strict.filter _, fun r member => ascending.placed r (List.mem_filter.1 member).1⟩

/-! ## Pages -/

/-- A page of ascending records is empty only if none are left; after its last record the others
go on. -/
theorem Ascending.page_cases (ascending : Ascending l n) {size : Int} (nonzero : size ≠ 0) (p : Nat) :
    (standingFrom p l = [] ∧ Store.limit size (standingFrom p l) = []) ∨
      ∃ init last, ∃ i : Nat, Store.limit size (standingFrom p l) = init ++ [last] ∧
        standingFrom p l = init ++ last :: standingFrom (i + 1) l ∧ last.idx = .int i ∧ p ≤ i := by
  rcases ascending.ordered.page_cases nonzero p with
    empty | ⟨init, last, j, page, split, idx, after⟩
  · exact .inl empty
  · obtain ⟨i, rfl⟩ := Int.eq_ofNat_of_zero_le (Int.le_trans (Int.natCast_nonneg p) after)
    exact .inr ⟨init, last, i, page, split, idx, Int.ofNat_le.1 after⟩

namespace Chain

variable {view : Nat → Database} {k : Chain} {stop : Cell}

/-- Each page read finds the records in its window, those from its position on. -/
def Sees (k : Chain) (view : Nat → Database) (stop : Cell) (l : List Record) : Prop :=
  ∀ i, ∃ t, (view i).store = .ok t ∧ ∀ p : Nat, t.window k.name (.int p) stop = standingFrom p l

theorem Sees.finds (sees : k.Sees view stop l) : k.Finds view 0 stop l := by
  intro i
  obtain ⟨t, found, window⟩ := sees i
  refine ⟨t, found, fun p onward => ?_⟩
  obtain ⟨p, rfl⟩ := Int.eq_ofNat_of_zero_le onward
  exact window p

theorem Sees.page (sees : k.Sees view stop l) (word : IsWord k.pageSize) (ends : stop.Ends n)
    (room : p < 0x8000000000000000) (i : Nat) :
    (view i).page k (.int p) stop = .ok (Store.limit k.pageSize (standingFrom p l)) :=
  sees.finds.page word ends (Int.natCast_nonneg p) ⟨by omega, by omega⟩ i

/-- **Paging is invisible.**  A reading has all the records from its start on.  It can fail after
them only, where the end is past all 64-bit integers and so is the position that it has come to. -/
theorem pagesFrom_of_sees (word : IsWord k.pageSize) (nonzero : k.pageSize ≠ 0)
    (ends : stop.Ends n) (ascending : Ascending l n) (sees : k.Sees view stop l)
    (stored : ∀ r ∈ l, r.idx.below (.int 0x8000000000000000) = true) (fuel i p : Nat)
    (enough : n ≤ p + fuel) :
    ∃ failure?, k.pagesFrom view stop fuel i (.int p) = ⟨standingFrom p l, failure?⟩ ∧
      (failure? ≠ none → 0x8000000000000000 < n ∧
        (0x8000000000000000 ≤ p ∨ ∃ r ∈ l, r.idx = .int 0x7fffffffffffffff)) := by
  obtain ⟨failure?, reading, only⟩ := pagesFrom_of_finds word nonzero ends ascending.ordered
    sees.finds (by decide) stored fuel i p (Int.natCast_nonneg p) enough
  refine ⟨failure?, reading, fun failed => ?_⟩
  obtain ⟨far, past | last⟩ := only failed
  · exact ⟨far, .inl (by omega)⟩
  · exact ⟨far, .inr last⟩

/-- A whole reading up to an end that is not past all positions. -/
theorem readUpTo_of_sees (word : IsWord k.pageSize) (nonzero : k.pageSize ≠ 0)
    (ends : stop.Ends n) (within : n ≤ 0x8000000000000000) (ascending : Ascending l n)
    (sees : k.Sees view stop l) (begins : k.start = .int p) :
    k.readUpTo view stop = ⟨standingFrom p l, none⟩ := by
  have stored : ∀ r ∈ l, r.idx.below (.int 0x8000000000000000) = true := by
    intro r member
    obtain ⟨i, idx, before⟩ := ascending.placed r member
    rw [idx, Cell.below_int, decide_eq_true_eq]
    omega
  obtain ⟨failure?, reading, only⟩ :=
    pagesFrom_of_sees word nonzero ends ascending sees stored _ 0 p ends.le_pageBound
  unfold readUpTo
  rw [begins, reading]
  cases failure? with
  | none => rfl
  | some e =>
      obtain ⟨far, -⟩ := only (Option.some_ne_none e)
      omega

end Chain

end ChainLog
