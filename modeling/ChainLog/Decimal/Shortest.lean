/-
# The shortest decimal that reads back

A binary floating-point value stands for all reals that round to it.  Among the
decimals in that interval `shortest` takes one with the fewest digits, and of
several the nearest to the value; `rounded` takes a fixed number of digits instead.
All comparisons are exact, in naturals: a decimal `digits * 10^exp` is compared with
a bound `n * 2^j` by cross-multiplication.
-/

namespace ChainLog.Decimal

set_option autoImplicit false

/-- A positive binary value `m * 2^q`. -/
structure Binary where
  m : Nat
  q : Int
  /-- The gap to the value below is half the gap to the value above. -/
  narrowBelow : Bool

/-- The magnitude with the given 64 bits, if it is finite. -/
def Binary.ofBits (bits : UInt64) : Binary :=
  let exponent : Nat := bits.toNat >>> 52 % 0x800
  let fraction : Nat := bits.toNat % 0x10000000000000
  if exponent = 0 then ⟨fraction, -1074, false⟩
  else ⟨0x10000000000000 + fraction, (exponent : Int) - 1075, fraction == 0 && decide (1 < exponent)⟩

/-- The decimal `digits * 10^exp`. -/
structure Scaled where
  digits : Nat
  exp : Int
deriving DecidableEq, Repr

/-- A power of ten. -/
def tens (n : Nat) : Nat := Nat.pow 10 n

/-- Compare `a * 10^i` with `n * 2^j`. -/
def compareScaled (a : Nat) (i : Int) (n : Nat) (j : Int) : Ordering :=
  compare ((a * tens i.toNat) <<< (-j).toNat) ((n * tens (-i).toNat) <<< j.toNat)

/-- The decimal lies among the reals that round to the value; the ends of that
interval belong to it when the mantissa is even. -/
def Binary.readsBack (x : Binary) (d : Scaled) : Bool :=
  let low := compareScaled d.digits d.exp (if x.narrowBelow then 4 * x.m - 1 else 4 * x.m - 2) (x.q - 2)
  let high := compareScaled d.digits d.exp (4 * x.m + 2) (x.q - 2)
  let closed := x.m % 2 == 0
  (low == .gt || (closed && low == .eq)) && (high == .lt || (closed && high == .eq))

/-- The least of four neighbouring powers of ten above the value. -/
def Binary.scale (x : Binary) : Int :=
  let guess := (((Nat.log2 x.m : Nat) : Int) + x.q) * 30103 / 100000
  if compareScaled 1 (guess - 1) x.m x.q == .gt then guess - 1
  else if compareScaled 1 guess x.m x.q == .gt then guess
  else if compareScaled 1 (guess + 1) x.m x.q == .gt then guess + 1
  else guess + 2

/-- The value in units of `10^e`, rounded down. -/
def Binary.floorAt (x : Binary) (e : Int) : Nat :=
  (x.m * tens (-e).toNat) <<< x.q.toNat / tens e.toNat <<< (-x.q).toNat

/-- The value is no nearer to the lower than to the upper neighbour of `low + 1/2`
units of `10^e`; a tie goes to the even one. -/
def Binary.prefersUpper (x : Binary) (low : Nat) (e : Int) : Bool :=
  match compareScaled (2 * low + 1) e (2 * x.m) x.q with
  | .lt => true
  | .eq => low % 2 == 1
  | .gt => false

/-- The nearest reading-back decimal with the given last place, if there is one. -/
def Binary.onGrid (x : Binary) (e : Int) : Option Scaled :=
  let low := x.floorAt e
  let below := x.readsBack ⟨low, e⟩
  let above := x.readsBack ⟨low + 1, e⟩
  if below && above then some (if x.prefersUpper low e then ⟨low + 1, e⟩ else ⟨low, e⟩)
  else if below then some ⟨low, e⟩
  else if above then some ⟨low + 1, e⟩
  else none

/-- The value itself as a decimal. -/
def Binary.exact (x : Binary) : Scaled :=
  if 0 ≤ x.q then ⟨x.m <<< x.q.toNat, 0⟩ else ⟨x.m * Nat.pow 5 (-x.q).toNat, x.q⟩

/-- The shortest decimal that reads back; seventeen digits always do. -/
def Binary.shortest (x : Binary) : Scaled :=
  let k := x.scale
  match (List.range 17).findSome? fun (n : Nat) => x.onGrid (k - 1 - (n : Int)) with
  | some d => d
  | none => x.exact

/-- The value rounded to a number of digits; half a unit goes up. -/
def Binary.rounded (x : Binary) (count : Nat) : Scaled :=
  let e := x.scale - count
  let low := x.floorAt e
  if compareScaled (2 * low + 1) e (2 * x.m) x.q == .gt then ⟨low, e⟩ else ⟨low + 1, e⟩

/-- Drop the zeros at the end, at most `fuel` of them. -/
def Scaled.trimFuel : Nat → Scaled → Scaled
  | 0, d => d
  | fuel + 1, d =>
      if d.digits ≠ 0 ∧ d.digits % 10 = 0 then trimFuel fuel ⟨d.digits / 10, d.exp + 1⟩ else d

def Scaled.trim (d : Scaled) : Scaled := trimFuel (d.digits.log2 + 1) d

end ChainLog.Decimal
