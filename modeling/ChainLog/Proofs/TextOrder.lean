/-
# The order of texts

Texts are in the order of their first different characters.  Of two texts that begin with fields of
one width the fields decide, and only where these are the same what follows them
(`append_lt_append_iff`).  So numbers that are written in fields of a fixed width have texts in their
own order: each field ranks the part of the number that it has room for, and fields behind each
other rank what they have room for together (`Ranks.append`).  Digits of any base are such fields
(`Positional.ranks`).
-/
import ChainLog.Text.Hex
import ChainLog.Text.Padded
import Mathlib.Algebra.Group.Nat.Defs

namespace ChainLog.Text

set_option autoImplicit false

variable {a b s t : List Char} {c : Char} {j k m n w : Nat} {write upper lower : Nat → List Char}

/-- Fields of one width decide before what follows them. -/
theorem append_lt_append_iff (same : a.length = b.length) :
    a ++ s < b ++ t ↔ a < b ∨ a = b ∧ s < t := by
  induction a generalizing b with
  | nil =>
    obtain rfl := List.length_eq_zero_iff.1 same.symm
    simp
  | cons x a ih =>
    cases b with
    | nil => cases same
    | cons y b =>
      rw [List.cons_append, List.cons_append, List.cons_lt_cons_iff, List.cons_lt_cons_iff,
        ih (Nat.succ.inj same), List.cons.injEq, and_or_left, or_assoc, and_assoc]

/-- Numbers are in the order of their quotients, and of their remainders where these are the same. -/
theorem divided_lt_iff {q q' r r' : Nat} (small : r < k) (small' : r' < k) :
    r + k * q < r' + k * q' ↔ q < q' ∨ q = q' ∧ r < r' := by
  rcases Nat.lt_trichotomy q q' with less | rfl | more
  · have next := Nat.mul_le_mul_left k (Nat.succ_le_of_lt less)
    rw [Nat.mul_succ] at next
    omega
  · omega
  · have next := Nat.mul_le_mul_left k (Nat.succ_le_of_lt more)
    rw [Nat.mul_succ] at next
    omega

/-! ## Texts of numbers -/

/-- The texts are in the order of what the numbers are modulo `k`. -/
def Ranks (k : Nat) (write : Nat → List Char) : Prop :=
  ∀ m n, write m < write n ↔ m % k < n % k

theorem Ranks.eq_iff (ranks : Ranks k write) : write m = write n ↔ m % k = n % k := by
  have below := ranks m n
  have above := ranks n m
  constructor
  · intro same
    rw [same] at below above
    have irrefl := List.lt_irrefl (write n)
    exact Nat.le_antisymm (Nat.not_lt.1 (mt above.2 irrefl)) (Nat.not_lt.1 (mt below.2 irrefl))
  · intro same
    rw [same] at below above
    exact List.le_antisymm (mt above.1 (Nat.lt_irrefl _)) (mt below.1 (Nat.lt_irrefl _))

/-- What all the texts have in front does not matter. -/
theorem Ranks.cons (ranks : Ranks k write) (c : Char) : Ranks k fun n => c :: write n :=
  fun m n => List.cons_lt_cons_self.trans (ranks m n)

/-- A field of one width, and behind it the texts of what is left of the number. -/
theorem Ranks.append (high : Ranks j upper) (low : Ranks k lower) (positive : 0 < k)
    (width : ∀ m n, (upper m).length = (upper n).length) :
    Ranks (k * j) fun n => upper (n / k) ++ lower n := by
  intro m n
  rw [append_lt_append_iff (width _ _), high, high.eq_iff, low, Nat.mod_mul, Nat.mod_mul,
    divided_lt_iff (Nat.mod_lt m positive) (Nat.mod_lt n positive)]

/-! ## Digits -/

/-- The lowest digits of a number, most significant first, with larger characters for larger
digits. -/
structure Positional (base : Nat) (digit : Nat → Char) (digits : Nat → Nat → List Char) : Prop where
  positive : 0 < base
  zero (n : Nat) : digits 0 n = []
  succ (w n : Nat) : digits (w + 1) n = digits w (n / base) ++ [digit (n % base)]
  rising {d e : Nat} : d < base → e < base → (digit d < digit e ↔ d < e)

section

variable {base : Nat} {digit : Nat → Char} {digits : Nat → Nat → List Char}

theorem Positional.length (positional : Positional base digit digits) (w n : Nat) :
    (digits w n).length = w := by
  induction w generalizing n with
  | zero => rw [positional.zero, List.length_nil]
  | succ w ih => rw [positional.succ, List.length_append, ih, List.length_singleton]

/-- Digits are in the order of the numbers, as far as these have room in them. -/
theorem Positional.ranks (positional : Positional base digit digits) (w : Nat) :
    Ranks (base ^ w) (digits w) := by
  induction w with
  | zero =>
    intro m n
    simp [positional.zero, Nat.mod_one]
  | succ w ih =>
    have last : Ranks base fun n => [digit (n % base)] := fun m n => by
      rw [List.cons_lt_cons_iff, positional.rising (Nat.mod_lt m positional.positive)
        (Nat.mod_lt n positional.positive)]
      simp
    have both := ih.append last positional.positive fun m n => by
      rw [positional.length, positional.length]
    rw [Nat.pow_succ']
    intro m n
    rw [positional.succ, positional.succ]
    exact both m n

end

theorem Hex.positional : Positional 16 digit digits where
  positive := by decide
  zero _ := rfl
  succ _ _ := rfl
  rising {d e} small small' := by
    have all : ∀ d e : Fin 16, digit d < digit e ↔ d.val < e.val := by decide
    exact all ⟨d, small⟩ ⟨e, small'⟩

theorem Padded.positional : Positional 10 (fun d => Char.ofNat (48 + d)) digits where
  positive := by decide
  zero _ := rfl
  succ _ _ := rfl
  rising {d e} small small' := by
    have all : ∀ d e : Fin 10, Char.ofNat (48 + d) < Char.ofNat (48 + e) ↔ d.val < e.val := by decide
    exact all ⟨d, small⟩ ⟨e, small'⟩

/-! ## Decimal fields -/

/-- What stands in all texts says nothing. -/
theorem ranks_const (s : List Char) : Ranks 1 fun _ => s := by
  intro m n
  simp [Nat.mod_one]

/-- A part of a number in a field of decimal digits that has room for it. -/
theorem ranks_field (room : k ≤ 10 ^ w) (positive : 0 < k) :
    Ranks k fun n => Padded.digits w (n % k) := by
  intro m n
  have fits (n : Nat) : n % k % 10 ^ w = n % k :=
    Nat.mod_eq_of_lt (Nat.lt_of_lt_of_le (Nat.mod_lt n positive) room)
  rw [Padded.positional.ranks w, fits, fits]

/-- Such a field and a mark in front of the fields for the rest of the number. -/
theorem Ranks.field (low : Ranks k lower) (c : Char) (positive : 0 < k) (room : j ≤ 10 ^ w)
    (positive' : 0 < j) : Ranks (k * j) fun n => Padded.digits w (n / k % j) ++ c :: lower n :=
  (ranks_field room positive').append (low.cons c) positive fun m n => by
    rw [Padded.length_digits, Padded.length_digits]

/-- A number of so many digits has no zeros in front. -/
theorem Padded.toDigits_eq_digits (least : 10 ^ w ≤ n) (most : n < 10 ^ (w + 1)) :
    Nat.toDigits 10 n = digits (w + 1) n := by
  have character (d : Nat) (small : d < 10) : d.digitChar = Char.ofNat (48 + d) := by
    have all : ∀ d : Fin 10, d.val.digitChar = Char.ofNat (48 + d.val) := by decide
    exact all ⟨d, small⟩
  induction w generalizing n with
  | zero =>
    rw [Nat.pow_one] at most
    rw [Nat.toDigits_of_lt_base most, character n most, digits, digits, List.nil_append,
      Nat.mod_eq_of_lt most]
  | succ w ih =>
    rw [Nat.pow_succ] at least
    rw [Nat.pow_succ] at most
    have base : 10 ≤ n := by
      have := Nat.pow_pos (n := w) (by decide : 0 < 10)
      omega
    rw [Nat.toDigits_of_base_le (by decide) base, ih (by omega) (by omega),
      character _ (Nat.mod_lt n (by decide))]
    rfl

end ChainLog.Text
