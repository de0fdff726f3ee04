/-
# Linked records

Records are linked when each names the one before it as its parent and stands at the next
position (`Linked`).  What may follow them is then fixed: a record that names the last of
them (`lastId`) and stands at the position that is their number (`linked_concat`).

`counted` is what a tip row holds after so many appends.  Past the last integer of 64
bits the column goes over to a floating-point value of the same amount, so a length of
2^63 is still told exactly (`same_counted`); no chain grows beyond it.
-/
import ChainLog.Store.Lemmas

namespace ChainLog

set_option autoImplicit false

/-! ## Links -/

/-- The identifier that the record after `l` has to name; `parent` if `l` is empty. -/
def lastId (parent : Uuid) (l : List Record) : Uuid := l.foldl (fun _ r => r.id) parent

/-- The records name one another in turn, the first of them `parent`, and stand at the
positions from `start` on. -/
def Linked : Uuid → Nat → List Record → Prop
  | _, _, [] => True
  | parent, start, r :: rest => r.parent = parent ∧ r.idx = .int start ∧ Linked r.id (start + 1) rest

variable {parent : Uuid} {start : Nat} {l m : List Record} {r : Record}

@[simp]
theorem lastId_nil : lastId parent [] = parent := rfl

@[simp]
theorem lastId_cons : lastId parent (r :: l) = lastId r.id l := rfl

@[simp]
theorem lastId_concat : lastId parent (l ++ [r]) = r.id := by
  simp [lastId]

theorem linked_append :
    Linked parent start (l ++ m) ↔
      Linked parent start l ∧ Linked (lastId parent l) (start + l.length) m := by
  induction l generalizing parent start with
  | nil => simp [Linked]
  | cons r l ih =>
      simp only [List.cons_append, Linked, ih, lastId_cons, List.length_cons, and_assoc]
      rw [Nat.add_right_comm start 1, Nat.add_assoc]

/-- What follows linked records is fixed by them. -/
theorem linked_concat :
    Linked parent start (l ++ [r]) ↔
      Linked parent start l ∧ r.parent = lastId parent l ∧ r.idx = .int ((start + l.length : Nat)) := by
  simp [linked_append, Linked]

theorem Linked.positions (linked : Linked parent start l) :
    l.map (·.idx) = (List.range' start l.length).map fun i => Cell.int (i : Nat) := by
  induction l generalizing parent start with
  | nil => rfl
  | cons r l ih =>
      obtain ⟨-, idx, rest⟩ := linked
      simp only [List.map_cons, List.length_cons, List.range'_succ, idx, ih rest]

/-- A linked record's position is the number of records before it. -/
theorem Linked.idx_of_getElem? {i : Nat} (linked : Linked parent start l) (found : l[i]? = some r) :
    r.idx = .int ((start + i : Nat)) := by
  have positions : (l.map (·.idx))[i]? = some r.idx := by rw [List.getElem?_map, found]; rfl
  have inside : i < l.length := (List.getElem?_eq_some_iff.1 found).1
  rw [linked.positions, List.getElem?_map, List.getElem?_range' inside, Nat.one_mul] at positions
  exact (Option.some.inj positions).symm

/-- A linked record that stands at a position is the one that has so many before it. -/
theorem Linked.getElem?_of_idx {i : Nat} (linked : Linked parent start l) (member : r ∈ l)
    (idx : r.idx = .int i) : start ≤ i ∧ l[i - start]? = some r := by
  obtain ⟨j, found⟩ := List.getElem?_of_mem member
  have position := linked.idx_of_getElem? found
  rw [idx] at position
  have same : i = start + j := Int.ofNat_inj.1 (Cell.int.inj position)
  subst same
  exact ⟨Nat.le_add_right _ _, by rwa [Nat.add_sub_cancel_left]⟩

theorem Linked.idx_int (linked : Linked parent start l) (member : r ∈ l) :
    ∃ i : Nat, r.idx = .int i := by
  obtain ⟨i, found⟩ := List.getElem?_of_mem member
  exact ⟨_, linked.idx_of_getElem? found⟩

theorem Linked.parent_of_head (linked : Linked parent start l) (found : l.head? = some r) :
    r.parent = parent := by
  cases l with
  | nil => simp at found
  | cons q l =>
      obtain rfl : q = r := by simpa using found
      exact linked.1

/-- Each linked record but the first names the one before it. -/
theorem Linked.parent_of_getElem? {i : Nat} {q : Record} (linked : Linked parent start l)
    (before : l[i]? = some q) (found : l[i + 1]? = some r) : r.parent = q.id := by
  induction l generalizing parent start i with
  | nil => simp at before
  | cons p l ih =>
      obtain ⟨-, -, rest⟩ := linked
      cases i with
      | zero =>
          obtain rfl : p = q := by simpa using before
          exact rest.parent_of_head (by simpa [List.head?_eq_getElem?] using found)
      | succ i => exact ih rest (by simpa using before) (by simpa using found)

/-! ## Counting in a column of numbers -/

namespace Cell

/-- The length that a tip row holds after `n` appends. -/
def counted (n : Nat) : Cell :=
  if n < 0x8000000000000000 then .int n else .real 0x43e0000000000000

theorem counted_of_lt {n : Nat} (h : n < 0x8000000000000000) : counted n = .int n := by
  simp [counted, h]

/-- 2^63 as a floating-point value. -/
theorem steps_two_pow_63 : steps 0x43e0000000000000 = 0x8000000000000000 * unit := by
  decide +kernel

theorem increased_last : (int 0x7fffffffffffffff).increased = real 0x43e0000000000000 := by
  decide +kernel

theorem increased_counted {n : Nat} (h : n < 0x8000000000000000) :
    (counted n).increased = counted (n + 1) := by
  rw [counted_of_lt h]
  by_cases last : n = 0x7fffffffffffffff
  · subst last
    exact increased_last
  · have room : n + 1 < 0x8000000000000000 := by omega
    rw [counted_of_lt room, increased_int ⟨by omega, by omega⟩]
    rfl

/-- A tip row's length is told exactly. -/
theorem same_counted {n : Nat} (h : n ≤ 0x8000000000000000) :
    (counted n).same (.int n) = true := by
  by_cases room : n < 0x8000000000000000
  · simp [counted_of_lt room]
  · obtain rfl : n = 0x8000000000000000 := by omega
    change (orderByAspects (real 0x43e0000000000000) (int 0x8000000000000000) == .eq) = true
    simp [orderByAspects, rank, number, characters, octets, steps_two_pow_63, List.compareLex]

end Cell

end ChainLog
