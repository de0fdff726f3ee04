/-
# Decimal digits of a fixed width

`digits w n` writes the `w` lowest decimal digits of `n`, most significant
first: the fields of a date, a time of day, a fraction.
-/

namespace ChainLog.Text.Padded

set_option autoImplicit false

/-- The `w` lowest decimal digits of `n`. -/
def digits : Nat → Nat → List Char
  | 0, _ => []
  | w + 1, n => digits w (n / 10) ++ [Char.ofNat (48 + n % 10)]

theorem length_digits (w n : Nat) : (digits w n).length = w := by
  induction w generalizing n with
  | zero => rfl
  | succ w ih => simp [digits, ih]

/-- A text moved to the right end of a field of the given width. -/
def right (width : Nat) (s : String) : String :=
  String.ofList (List.replicate (width - s.length) ' ') ++ s

end ChainLog.Text.Padded
