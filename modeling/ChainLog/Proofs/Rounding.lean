/-
# Rounding

The sum of two floating-point values is put together exactly and then rounded to the 53 digits that
there is room for.  Here is what rounding does to a value, as far as readers rely on it: it ends up
on the grid of its last place, and less than a place away from where it was (`round_eq`).  It is not
needed that it goes to the nearest of the values there.

Values are finite, and a value `q * 2 ^ (u - 1074)` is written with `u`, the place of its last
digit above the smallest one that there is.  So it is the whole number `q * 2 ^ u` of smallest
steps, and all that is said here is said of whole numbers.
-/
import Mathlib

namespace ChainLog.Rounding

open Float.Model Float.Model.UnpackedFloat

set_option autoImplicit false

variable {s : Sign} {m a n q u r t : Nat}

/-! ## Signs -/

theorem dvd_apply {k n : Int} (s : Sign) (divides : k ∣ n) : k ∣ s.apply n := by
  cases s
  · exact Int.dvd_neg.2 divides
  · exact divides

theorem apply_mul (s : Sign) (n k : Int) : s.apply n * k = s.apply (n * k) := by
  cases s
  · exact Int.neg_mul _ _
  · rfl

theorem natAbs_apply (s : Sign) (n : Int) : (s.apply n).natAbs = n.natAbs := by
  cases s
  · exact Int.natAbs_neg n
  · rfl

/-! ## Packing -/

theorem log2_le_of_lt {r : Nat} (small : r < 2 ^ 53) : r.log2 ≤ 52 := by
  by_cases zero : r = 0
  · rw [zero]
    decide
  · have := (Nat.log2_lt zero).2 small
    omega

/-- The mantissa and the place of a finite value, as they are packed. -/
structure Canonical (q u : Nat) : Prop where
  short : q < 2 ^ 53
  full : u = 0 ∨ 2 ^ 52 ≤ q
  finite : u ≤ 2045

theorem ofNat_ne_ofNat {w k : Nat} (fits : n < 2 ^ w) (fits' : k < 2 ^ w) (different : n ≠ k) :
    BitVec.ofNat w n ≠ BitVec.ofNat w k := by
  intro same
  have value := congrArg BitVec.toNat same
  rw [BitVec.toNat_ofNat, BitVec.toNat_ofNat, Nat.mod_eq_of_lt fits,
    Nat.mod_eq_of_lt fits'] at value
  exact different value

section

variable {b : BitVec Format.binary64.numBits}

/-- The greatest exponent is that of the values that are not finite. -/
theorem unpack_of_greatest (greatest : unpackExponent b = -1#_) (s : Sign) (q : Nat) (e : Int)
    (some : 0 < q) : UnpackedFloat.unpack Format.binary64 b ≠ .finite s q e some := by
  unfold UnpackedFloat.unpack
  simp only [greatest, if_true]
  split <;> exact UnpackedFloat.noConfusion

/-- Zero and the values that are so small that all their digits are written. -/
theorem unpack_of_least (least : unpackExponent b = 0#_) :
    UnpackedFloat.unpack Format.binary64 b =
      if some : 0 < (unpackMantissa b).toNat then
        .finite (Sign.ofBitVec (unpackSign b)) (unpackMantissa b).toNat (-1074) some
      else .zero (Sign.ofBitVec (unpackSign b)) := by
  have bounded : (0#11 : BitVec 11) ≠ -1#11 := by decide
  have zero_iff : unpackMantissa b = 0#_ ↔ ¬ 0 < (unpackMantissa b).toNat := by
    rw [← BitVec.toNat_inj, Nat.not_lt, Nat.le_zero]
    exact Iff.rfl
  unfold UnpackedFloat.unpack
  simp only [least, if_neg bounded, if_true]
  by_cases zero : unpackMantissa b = 0#_
  · rw [dif_pos zero, dif_neg (zero_iff.1 zero)]
  · rw [dif_neg zero, dif_pos (Decidable.not_not.1 fun none => zero (zero_iff.2 none))]
    rfl

/-- The other values have a first digit that is not written. -/
theorem unpack_of_between (low : unpackExponent b ≠ 0#_) (high : unpackExponent b ≠ -1#_) :
    UnpackedFloat.unpack Format.binary64 b =
      .finite (Sign.ofBitVec (unpackSign b)) (2 ^ 52 + (unpackMantissa b).toNat)
        ((unpackExponent b).toNat - 1075) (by omega) := by
  have digits : (1#1 ++ unpackMantissa b).toNat = 2 ^ 52 + (unpackMantissa b).toNat := by
    rw [BitVec.toNat_append, ← Nat.shiftLeft_add_eq_or_of_lt (BitVec.isLt _)]
    rfl
  unfold UnpackedFloat.unpack
  simp only [if_neg low, if_neg high, digits]
  rfl

end

/-- A finite value is packed without loss. -/
theorem unpack_pack (canonical : Canonical q u) (some : 0 < q) :
    UnpackedFloat.unpack Format.binary64
        (UnpackedFloat.pack Format.binary64 (.finite s q ((u : Int) - 1074) some)) =
      .finite s q ((u : Int) - 1074) some := by
  obtain ⟨short, full, finite⟩ := canonical
  have mantissaBits : Format.binary64.mantissaBits = 53 := rfl
  have biased : (((u : Int) - 1074) + (Format.binary64.exponentBias : Int) + (52 : Nat)).toNat =
      u + 1 := by
    show (((u : Int) - 1074) + 1023 + 52).toNat = u + 1
    omega
  have bounded : ¬ 2 ^ 11 ≤ u + 1 + 1 := by omega
  unfold UnpackedFloat.pack
  simp only [biased, if_neg bounded, mantissaBits]
  by_cases normal : 2 ^ 52 ≤ q
  · -- The first digit is left out, and the place is there instead.
    have digits : q.log2 + 1 = 53 := by
      have := log2_le_of_lt short
      have := (Nat.le_log2 (Nat.ne_of_gt some)).2 normal
      omega
    have place : (BitVec.ofNat 11 (u + 1)).toNat = u + 1 := by
      rw [BitVec.toNat_ofNat]
      exact Nat.mod_eq_of_lt (by omega)
    have rest : 2 ^ 52 + (BitVec.ofNat 52 q).toNat = q := by
      rw [BitVec.toNat_ofNat]
      omega
    have low : BitVec.ofNat 11 (u + 1) ≠ 0#11 := ofNat_ne_ofNat (by omega) (by decide) (by omega)
    have high : BitVec.ofNat 11 (u + 1) ≠ 2047#11 :=
      ofNat_ne_ofNat (by omega) (by decide) (by omega)
    rw [if_pos digits, unpack_of_between]
    · simp only [unpackExponent_packComponents, unpackMantissa_packComponents,
        unpackSign_packComponents, Sign.ofBitVec_toBitVec, rest, place]
      congr 1
      omega
    · rw [unpackExponent_packComponents]
      exact low
    · rw [unpackExponent_packComponents]
      exact high
  · -- All digits are there, in the last place of all.
    obtain rfl : u = 0 := full.resolve_right normal
    have digits : ¬ q.log2 + 1 = 53 := by
      have := (Nat.log2_lt (Nat.ne_of_gt some)).2 (Nat.not_le.1 normal)
      omega
    have all : (BitVec.ofNat 52 q).toNat = q := by
      rw [BitVec.toNat_ofNat]
      exact Nat.mod_eq_of_lt (Nat.not_le.1 normal)
    rw [if_neg digits, unpack_of_least unpackExponent_packComponents]
    simp only [unpackMantissa_packComponents, unpackSign_packComponents, Sign.ofBitVec_toBitVec,
      all, some, dite_true]
    rfl

/-! ## Shifting -/

theorem mantissa_shiftRight (x : ExtendedMantissa) (n : Nat) :
    (x >>> n).mantissa = x.mantissa / 2 ^ n := by
  induction n with
  | zero => exact (Nat.div_one _).symm
  | succ n ih =>
      show (x >>> n).mantissa / 2 = _
      rw [ih, Nat.div_div_eq_div_mul, Nat.pow_succ]

/-- Shifting out nothing but zeros leaves nothing to be rounded. -/
theorem shiftRight_exact (r n : Nat) :
    (⟨r * 2 ^ n, false, false⟩ : ExtendedMantissa) >>> n = ⟨r, false, false⟩ := by
  induction n generalizing r with
  | zero =>
      show (⟨r * 2 ^ 0, false, false⟩ : ExtendedMantissa) = _
      rw [Nat.pow_zero, Nat.mul_one]
  | succ n ih =>
      show ((⟨r * 2 ^ (n + 1), false, false⟩ : ExtendedMantissa) >>> n).shiftRightOne = _
      rw [Nat.pow_succ', ← Nat.mul_assoc, ih]
      simp [ExtendedMantissa.shiftRightOne]

/-- The mantissa without its last `n` digits, rounded. -/
def rounded (m n : Nat) : Nat := ((⟨m, false, false⟩ : ExtendedMantissa) >>> n).roundedMantissa

theorem roundedMantissa_shiftRight (m n : Nat) :
    ((⟨m, false, false⟩ : ExtendedMantissa) >>> n).roundedMantissa = rounded m n := rfl

theorem rounded_mul_two_pow (r n : Nat) : rounded (r * 2 ^ n) n = r := by
  rw [rounded, shiftRight_exact]
  rfl

theorem roundedMantissa_bounds (x : ExtendedMantissa) :
    x.mantissa ≤ x.roundedMantissa ∧ x.roundedMantissa ≤ x.mantissa + 1 := by
  obtain ⟨m, first, others⟩ := x
  unfold ExtendedMantissa.roundedMantissa
  cases first <;> cases others <;>
    simp only [ExtendedMantissa.accuracy, Accuracy.roundToNearestEven] <;> omega

theorem rounded_bounds (m n : Nat) : m / 2 ^ n ≤ rounded m n ∧ rounded m n ≤ m / 2 ^ n + 1 := by
  have bounds := roundedMantissa_bounds ((⟨m, false, false⟩ : ExtendedMantissa) >>> n)
  rw [mantissa_shiftRight] at bounds
  exact bounds

/-- A rounded mantissa is less than a place away from the exact one. -/
theorem rounded_near (m n : Nat) :
    m < rounded m n * 2 ^ n + 2 ^ n ∧ rounded m n * 2 ^ n < m + 2 ^ n := by
  have place : 0 < 2 ^ n := Nat.two_pow_pos n
  by_cases whole : m % 2 ^ n = 0
  · obtain ⟨r, rfl⟩ := Nat.dvd_of_mod_eq_zero whole
    rw [Nat.mul_comm, rounded_mul_two_pow]
    omega
  · obtain ⟨least, most⟩ := rounded_bounds m n
    have low := Nat.mul_le_mul_right (2 ^ n) least
    have high := Nat.mul_le_mul_right (2 ^ n) most
    have split : m / 2 ^ n * 2 ^ n + m % 2 ^ n = m := Nat.div_add_mod' m (2 ^ n)
    have rest := Nat.mod_lt m place
    rw [Nat.add_mul, Nat.one_mul] at high
    omega

/-! ## The last place -/

/-- The exponent of the last place that a mantissa keeps, counted from that of the smallest step. -/
def lastPlace (m a : Nat) : Nat := m.log2 + a - 52

theorem targetExponent_eq (m a : Nat) :
    Format.binary64.targetExponent (totalExponent m ((a : Int) - 1074)) =
      (lastPlace m a : Int) - 1074 := by
  simp only [Format.targetExponent, totalExponent, Format.mantissaBits, Format.minExponent,
    lastPlace]
  omega

theorem shiftToTargetExponent_eq (m a : Nat) :
    shiftToTargetExponent Format.binary64 m ((a : Int) - 1074) .exact =
      ((⟨m, false, false⟩ : ExtendedMantissa) >>> (lastPlace m a - a),
        ((max (lastPlace m a) a : Nat) : Int) - 1074) := by
  unfold shiftToTargetExponent
  rw [targetExponent_eq]
  have amount : ((lastPlace m a : Int) - 1074 - ((a : Int) - 1074)).toNat = lastPlace m a - a := by
    omega
  have place : (a : Int) - 1074 + (lastPlace m a - a : Nat) =
      ((max (lastPlace m a) a : Nat) : Int) - 1074 := by omega
  simp only [shiftToExponent, amount, place]
  rfl

/-- A rounded mantissa has its last place, or it has been carried into the next one. -/
theorem shift_rounded (most : r ≤ 2 ^ 53) (t : Nat) :
    ∃ q u : Nat, shiftToTargetExponent Format.binary64 r ((t : Int) - 1074) .exact =
        (⟨q, false, false⟩, (u : Int) - 1074) ∧
      q * 2 ^ u = r * 2 ^ t ∧ q < 2 ^ 53 ∧ u ≤ t + 1 ∧ (r < 2 ^ 52 ∧ u = t ∨ 2 ^ 52 ≤ q) := by
  rw [shiftToTargetExponent_eq]
  by_cases small : r < 2 ^ 53
  · have none : lastPlace r t - t = 0 := by
      have := log2_le_of_lt small
      unfold lastPlace
      omega
    have same : max (lastPlace r t) t = t := by omega
    rw [none, same]
    refine ⟨r, t, rfl, rfl, small, Nat.le_succ t, ?_⟩
    by_cases short : r < 2 ^ 52
    · exact .inl ⟨short, rfl⟩
    · exact .inr (Nat.not_lt.1 short)
  · obtain rfl : r = 2 ^ 53 := by omega
    have next : lastPlace (2 ^ 53) t = t + 1 := by
      unfold lastPlace
      rw [Nat.log2_two_pow]
      omega
    have one : lastPlace (2 ^ 53) t - t = 1 := by omega
    have same : max (lastPlace (2 ^ 53) t) t = t + 1 := by omega
    rw [one, same]
    refine ⟨2 ^ 52, t + 1, rfl, ?_, by decide, Nat.le_refl _, .inr (Nat.le_refl _)⟩
    rw [Nat.pow_succ 2 t]
    omega

theorem log2_mul_two_pow (positive : 0 < m) (n : Nat) : (m * 2 ^ n).log2 = m.log2 + n := by
  induction n with
  | zero => rw [Nat.pow_zero, Nat.mul_one, Nat.add_zero]
  | succ n ih =>
      have some : 0 < m * 2 ^ n := Nat.mul_pos positive (Nat.two_pow_pos n)
      have double : m * 2 ^ (n + 1) = 2 * (m * 2 ^ n) := by
        rw [Nat.pow_succ, ← Nat.mul_assoc, Nat.mul_comm]
      rw [double, Nat.log2_two_mul (Nat.ne_of_gt some), ih, Nat.add_assoc]

/-- The mantissa that is rounded has 53 digits at most, and no fewer unless its last place is the
least of all. -/
theorem rounded_digits (positive : 0 < m) (fits : a ≤ lastPlace m a) :
    0 < rounded m (lastPlace m a - a) ∧ rounded m (lastPlace m a - a) ≤ 2 ^ 53 ∧
      (lastPlace m a = 0 ∨ 2 ^ 52 ≤ rounded m (lastPlace m a - a)) := by
  obtain ⟨least, most⟩ := rounded_bounds m (lastPlace m a - a)
  have place : 0 < 2 ^ (lastPlace m a - a) := Nat.two_pow_pos _
  have below : m / 2 ^ (lastPlace m a - a) < 2 ^ 53 := by
    rw [Nat.div_lt_iff_lt_mul place, ← Nat.pow_add]
    refine Nat.lt_of_lt_of_le Nat.lt_log2_self (Nat.pow_le_pow_right (by decide) ?_)
    unfold lastPlace at fits ⊢
    omega
  by_cases lowest : lastPlace m a = 0
  · have unshifted : m / 2 ^ (lastPlace m a - a) = m := by
      rw [lowest, Nat.zero_sub, Nat.pow_zero, Nat.div_one]
    exact ⟨by omega, by omega, .inl lowest⟩
  · have full : 2 ^ 52 ≤ m / 2 ^ (lastPlace m a - a) := by
      rw [Nat.le_div_iff_mul_le place, ← Nat.pow_add]
      refine Nat.le_trans (Nat.pow_le_pow_right (by decide) ?_) (Nat.log2_self_le (by omega))
      unfold lastPlace at fits lowest ⊢
      omega
    exact ⟨by omega, by omega, .inr (Nat.le_trans full least)⟩

/-- Zeros are put behind a mantissa as long as there are places for them. -/
theorem decreaseExponent_eq (positive : 0 < m) (a : Nat) :
    ∃ m' a' : Nat, decreaseExponent m ((a : Int) - 1074) ((lastPlace m a : Int) - 1074) =
        (m', (a' : Int) - 1074) ∧
      0 < m' ∧ m' * 2 ^ a' = m * 2 ^ a ∧ lastPlace m' a' = lastPlace m a ∧
      a' ≤ lastPlace m' a' := by
  have amount : ((a : Int) - 1074 - ((lastPlace m a : Int) - 1074)).toNat = a - lastPlace m a := by
    omega
  have place : (a : Int) - 1074 - (a - lastPlace m a : Nat) =
      (a - (a - lastPlace m a) : Nat) - 1074 := by omega
  have same : lastPlace (m * 2 ^ (a - lastPlace m a)) (a - (a - lastPlace m a)) =
      lastPlace m a := by
    unfold lastPlace
    rw [log2_mul_two_pow positive]
    omega
  refine ⟨m * 2 ^ (a - lastPlace m a), a - (a - lastPlace m a), ?_, ?_, ?_, same, ?_⟩
  · unfold decreaseExponent
    simp only [amount, place, Nat.shiftLeft_eq]
  · exact Nat.mul_pos positive (Nat.two_pow_pos _)
  · rw [Nat.mul_assoc, ← Nat.pow_add]
    congr 2
    omega
  · rw [same]
    omega

theorem lastPlace_le {k : Nat} (positive : 0 < m) (small : m * 2 ^ a < 2 ^ k) :
    lastPlace m a ≤ k - 53 := by
  have digits : 2 ^ (m.log2 + a) < 2 ^ k := by
    rw [Nat.pow_add]
    exact Nat.lt_of_le_of_lt
      (Nat.mul_le_mul_right _ (Nat.log2_self_le (Nat.ne_of_gt positive))) small
  have := (Nat.pow_lt_pow_iff_right (by decide : 1 < 2)).1 digits
  unfold lastPlace
  omega

/-! ## Rounding -/

/-- A value that stands on a grid of places, less than a place away from another value. -/
structure Near (v x : Int) (t : Nat) : Prop where
  whole : ((2 ^ t : Nat) : Int) ∣ v
  above : x < v + (2 ^ t : Nat)
  below : v < x + (2 ^ t : Nat)

theorem Near.apply {v x : Int} (near : Near v x t) (s : Sign) :
    Near (s.apply v) (s.apply x) t := by
  obtain ⟨whole, above, below⟩ := near
  cases s with
  | positive => exact ⟨whole, above, below⟩
  | negative =>
      refine ⟨Int.dvd_neg.2 whole, ?_, ?_⟩
      · show -x < -v + _
        omega
      · show -v < -x + _
        omega

/-- What rounding makes of a positive value: one with its last place, less than a place away. -/
theorem round_eq (s : Sign) (positive : 0 < m) (small : lastPlace m a ≤ 1074) :
    ∃ (q u : Nat) (some : 0 < q),
      UnpackedFloat.round Format.binary64 s m ((a : Int) - 1074) =
        .finite s q ((u : Int) - 1074) some ∧
      Canonical q u ∧ Near (q * 2 ^ u : Nat) (m * 2 ^ a : Nat) (lastPlace m a) := by
  obtain ⟨m', a', started, positive', value, place, fits⟩ := decreaseExponent_eq positive a
  obtain ⟨some, most, digits⟩ := rounded_digits positive' fits
  obtain ⟨less, greater⟩ := rounded_near m' (lastPlace m' a' - a')
  obtain ⟨q, u, carried, kept, short, next, full⟩ := shift_rounded most (lastPlace m' a')
  have first : max (lastPlace m' a') a' = lastPlace m' a' := by omega
  have places : 2 ^ (lastPlace m' a' - a') * 2 ^ a' = 2 ^ lastPlace m' a' :=
    Nat.pow_sub_mul_pow 2 fits
  have left : 0 < q := by
    refine Nat.pos_of_ne_zero fun none => ?_
    rw [none, Nat.zero_mul] at kept
    exact absurd kept (Nat.ne_of_lt (Nat.mul_pos some (Nat.two_pow_pos _)))
  have rounds : UnpackedFloat.round Format.binary64 s m ((a : Int) - 1074) =
      .finite s q ((u : Int) - 1074) left := by
    unfold UnpackedFloat.round
    simp only [targetExponent_eq, started, roundWithAccuracy, shiftToTargetExponent_eq m' a', first,
      roundedMantissa_shiftRight, carried, Nat.ne_of_gt left, dite_false]
  have normal : u = 0 ∨ 2 ^ 52 ≤ q := by
    rcases full with ⟨low, here⟩ | enough
    · exact .inl (here.trans (digits.resolve_right (Nat.not_le.2 low)))
    · exact .inr enough
  have above := Nat.mul_lt_mul_of_pos_right less (Nat.two_pow_pos a')
  have below := Nat.mul_lt_mul_of_pos_right greater (Nat.two_pow_pos a')
  rw [Nat.add_mul, Nat.mul_assoc, places, value, ← kept] at above below
  refine ⟨q, u, left, rounds, ⟨short, normal, by omega⟩, ?_⟩
  rw [← place]
  refine ⟨Int.natCast_dvd_natCast.2 ?_, by exact_mod_cast above, by exact_mod_cast below⟩
  rw [kept]
  exact Nat.dvd_mul_left _ _

end ChainLog.Rounding
