/-
# Texts of floating-point values

`Layout` holds the decisions that turn a value into a text.  In `plain`, the layout
of messages, the digits are the shortest that read back; a value is positional from
10^-4 up to below 10^16, always with a fraction, and otherwise has one digit before
the point and a signed exponent of two digits at least.  In `stored`, the layout of a
number in a text column, the digits are the first fifteen, only values below 10^15
are positional, and the point is always followed by a digit.
-/
import ChainLog.Decimal.Shortest

namespace ChainLog.Decimal

set_option autoImplicit false

structure Layout where
  /-- The number of digits the value is rounded to, if not to the shortest. -/
  digits? : Option Nat
  /-- The least power of ten of the first digit that is written positionally. -/
  leastPositional : Int
  /-- The first power of ten that is not. -/
  beyondPositional : Int
  exponentWidth : Nat
  /-- What stands between a single digit and its exponent. -/
  loneDigit : String
  zero : String
  negativeZero : String
  nan : String
  infinity : String

def plain : Layout := ⟨none, -4, 16, 2, "", "0.0", "-0.0", "nan", "inf"⟩

def stored : Layout := ⟨some 15, -4, 15, 2, ".0", "0.0", "0.0", "NaN", "Inf"⟩

def padLeft (width : Nat) (s : List Char) : List Char :=
  List.replicate (width - s.length) '0' ++ s

def Layout.exponent (l : Layout) (n : Int) : List Char :=
  'e' :: (if n < 0 then '-' else '+') :: padLeft l.exponentWidth (Nat.toDigits 10 n.natAbs)

/-- The text of a positive decimal without trailing zeros. -/
def Layout.decimal (l : Layout) (d : Scaled) : List Char :=
  let digits := Nat.toDigits 10 d.digits
  let first : Int := d.exp + digits.length - 1
  if l.leastPositional ≤ first ∧ first < l.beyondPositional then
    if 0 ≤ d.exp then digits ++ List.replicate d.exp.toNat '0' ++ ['.', '0']
    else if 0 ≤ first then
      digits.take (first.toNat + 1) ++ '.' :: digits.drop (first.toNat + 1)
    else '0' :: '.' :: (List.replicate (-first - 1).toNat '0' ++ digits)
  else
    match digits with
    | [] => []
    | [c] => c :: (l.loneDigit.toList ++ l.exponent first)
    | c :: r => c :: '.' :: (r ++ l.exponent first)

def Layout.float (l : Layout) (x : Float) : String :=
  if x.isNaN then l.nan
  else
    let bits := x.toBits
    let sign := if 0x8000000000000000 ≤ bits.toNat then "-" else ""
    if x.isInf then sign ++ l.infinity
    else
      let b := Binary.ofBits bits
      if b.m = 0 then (if sign = "" then l.zero else l.negativeZero)
      else sign ++ String.ofList (l.decimal ((l.digits?.elim b.shortest b.rounded).trim))

end ChainLog.Decimal
