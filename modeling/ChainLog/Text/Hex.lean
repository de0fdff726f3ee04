/-
# Hexadecimal text of a fixed width

`digits w n` writes the `w` lowest hexadecimal digits of `n`, most significant
first, in lower case.  A width is part of the format everywhere it is used, so
there is no variable-width printer here.
-/

namespace ChainLog.Text.Hex

set_option autoImplicit false

/-- The lower-case digit of a number below 16. -/
def digit (n : Nat) : Char :=
  if n < 10 then Char.ofNat (48 + n) else Char.ofNat (87 + n)

/-- The `w` lowest digits of `n`, most significant first. -/
def digits : Nat → Nat → List Char
  | 0, _ => []
  | w + 1, n => digits w (n / 16) ++ [digit (n % 16)]

/-- The value of one hexadecimal digit of either case. -/
def value? (c : Char) : Option Nat :=
  if '0' ≤ c ∧ c ≤ '9' then some (c.toNat - 48)
  else if 'a' ≤ c ∧ c ≤ 'f' then some (c.toNat - 87)
  else if 'A' ≤ c ∧ c ≤ 'F' then some (c.toNat - 55)
  else none

/-- Two digits per byte. -/
def ofBytes (bytes : List UInt8) : List Char :=
  bytes.flatMap fun b => digits 2 b.toNat

/-- Bytes from pairs of digits; `none` when the text is no sequence of pairs. -/
def toBytes? : List Char → Option (List UInt8)
  | [] => some []
  | [_] => none
  | a :: b :: rest => do
      let hi ← value? a
      let lo ← value? b
      let bytes ← toBytes? rest
      return UInt8.ofNat (16 * hi + lo) :: bytes

/-- A digit is read back as the number it was written for. -/
theorem value?_digit {n : Nat} (h : n < 16) : value? (digit n) = some n := by
  have all : ∀ m : Fin 16, value? (digit m.val) = some m.val := by decide
  exact all ⟨n, h⟩

theorem toBytes?_ofBytes (bytes : List UInt8) : toBytes? (ofBytes bytes) = some bytes := by
  induction bytes with
  | nil => rfl
  | cons b rest ih =>
      have hb := b.toNat_lt
      have hi : value? (digit (b.toNat / 16 % 16)) = some (b.toNat / 16) := by
        rw [Nat.mod_eq_of_lt (by omega)]
        exact value?_digit (by omega)
      have lo : value? (digit (b.toNat % 16)) = some (b.toNat % 16) := value?_digit (by omega)
      have shape : ofBytes (b :: rest) =
          digit (b.toNat / 16 % 16) :: digit (b.toNat % 16) :: ofBytes rest := rfl
      have whole : 16 * (b.toNat / 16) + b.toNat % 16 = b.toNat := by omega
      rw [shape, toBytes?, hi, lo, ih]
      simp only [Option.bind_eq_bind, Option.bind_some, whole, UInt8.ofNat_toNat]
      rfl

theorem length_digits (w n : Nat) : (digits w n).length = w := by
  induction w generalizing n with
  | zero => rfl
  | succ w ih => simp [digits, ih]

end ChainLog.Text.Hex
