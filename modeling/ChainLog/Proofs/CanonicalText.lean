/-
# Canonical texts of identifiers

The canonical text of an identifier has nothing but hyphens and digits (`Uuid.filter_chars`), and
these are all the digits of the number in order (`Text.Hex.digits_append`): the number is what they
are worth (`Text.Numeral.valueOf_places`).
-/
import ChainLog.Uuid.Reading

namespace ChainLog

set_option autoImplicit false

open Text

namespace Text.Hex

variable {w v n : Nat} {c : Char}

/-- The digits of a number as values, most significant first. -/
def places : Nat → Nat → List Nat
  | 0, _ => []
  | w + 1, n => places w (n / 16) ++ [n % 16]

theorem digits_eq_map (w n : Nat) : digits w n = (places w n).map digit := by
  induction w generalizing n with
  | zero => rfl
  | succ w ih => rw [digits, places, ih, List.map_append, List.map_singleton]

theorem lt_of_mem_places {d : Nat} (member : d ∈ places w n) : d < 16 := by
  induction w generalizing n with
  | zero => cases member
  | succ w ih =>
    rcases List.mem_append.1 member with first | last
    · exact ih first
    · rw [List.mem_singleton.1 last]
      exact Nat.mod_lt n (by decide)

/-- A shift by a digit more is a shift of the upper part. -/
theorem shiftRight_succ (n w : Nat) : n >>> (4 * (w + 1)) = (n / 16) >>> (4 * w) := by
  rw [Nat.mul_succ, Nat.add_comm, Nat.shiftRight_add, Nat.shiftRight_eq_div_pow n 4]

/-- The digits of a number are those of its upper part and then those of its lower part. -/
theorem digits_append (v w n : Nat) :
    digits v (n >>> (4 * w)) ++ digits w n = digits (v + w) n := by
  induction w generalizing n with
  | zero => simp [digits]
  | succ w ih =>
    rw [digits, ← List.append_assoc, shiftRight_succ, ih]
    rfl

/-- A character that a digit below 16 is written as. -/
def IsDigit (c : Char) : Prop := ∃ d < 16, c = digit d

theorem isDigit_of_mem (member : c ∈ digits w n) : IsDigit c := by
  rw [digits_eq_map] at member
  obtain ⟨d, place, rfl⟩ := List.mem_map.1 member
  exact ⟨d, lt_of_mem_places place, rfl⟩

/-- What can be checked of each of the sixteen digits holds of all. -/
theorem IsDigit.induction {P : Char → Prop} (isDigit : IsDigit c)
    (all : ∀ d : Fin 16, P (digit d)) : P c := by
  obtain ⟨d, small, rfl⟩ := isDigit
  exact all ⟨d, small⟩

end Text.Hex

/-! ## Numerals -/

namespace Text.Numeral

theorem digit?_digit {d : Nat} (small : d < 16) : Base.sixteen.digit? (Hex.digit d) = some d := by
  have all : ∀ d : Fin 16, Base.sixteen.digit? (Hex.digit d) = some d.val := by decide
  exact all ⟨d, small⟩

theorem valueOf_append (b : Base) (ds : List Nat) (d : Nat) :
    valueOf b (ds ++ [d]) = valueOf b ds * b.value + d := by
  simp only [valueOf, List.foldl_append, List.foldl_cons, List.foldl_nil]

/-- A number that has room in so many digits is their value. -/
theorem valueOf_places {w n : Nat} (room : n >>> (4 * w) = 0) :
    valueOf .sixteen (Hex.places w n) = n := by
  induction w generalizing n with
  | zero => exact room.symm
  | succ w ih =>
    rw [Hex.shiftRight_succ] at room
    rw [Hex.places, valueOf_append, ih room]
    exact Nat.div_add_mod' n 16

end Text.Numeral

/-! ## Identifiers -/

namespace Uuid

/-- Without its hyphens the canonical text is the digits of the number. -/
theorem filter_chars (u : Uuid) : u.chars.filter (· != '-') = Hex.digits 32 u.toNat := by
  have digits (w n : Nat) : (Hex.digits w n).filter (· != '-') = Hex.digits w n := by
    refine List.filter_eq_self.2 fun c member => ?_
    exact (Hex.isDigit_of_mem member).induction (P := fun c => (c != '-') = true) (by decide)
  have hyphen : ('-' != '-') = false := rfl
  simp only [chars, List.filter_append, List.filter_cons, digits, hyphen, Bool.false_eq_true, if_false]
  rw [Hex.digits_append 4 12, Hex.digits_append 4 16, Hex.digits_append 4 20, Hex.digits_append 8 24]

/-- A canonical text begins with a digit, not with a hyphen. -/
theorem head?_text (u : Uuid) : u.text.toList.head? ≠ some '-' := by
  obtain ⟨c, l, digits⟩ : ∃ c l, Hex.digits 8 (u.toNat >>> 96) = c :: l :=
    List.exists_cons_of_length_pos (by rw [Hex.length_digits]; decide)
  have first : Hex.IsDigit c := Hex.isDigit_of_mem (by rw [digits]; exact List.mem_cons_self)
  rw [text, String.toList_ofList, chars, digits, List.cons_append, List.head?_cons]
  intro same
  exact first.induction (P := (· ≠ '-')) (by decide) (Option.some.inj same)

theorem text_ne_empty (u : Uuid) : u.text ≠ "" := by
  intro empty
  have length := congrArg (fun x => x.toList.length) empty
  rw [text, String.toList_ofList, length_chars] at length
  cases length

end Uuid

end ChainLog
