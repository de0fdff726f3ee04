/-
# Counting up

Readers go on at one more than the last position that they have read.  An integer is counted up to
the next one; a floating-point value is rounded, and from 2^53 on one more can be the value that it
was.  But a value with a fraction is counted up, and never falls behind the whole number that it
should reach: that number stands on the grid of the last place, so what is less than a place away
from one more than the value cannot be below it (`next?_of_fraction`).

So every number but a floating-point value that is whole moves on when it is counted up
(`moves_on`).
-/
import ChainLog.Cell.Lemmas
import ChainLog.Proofs.Rounding

namespace ChainLog.Cell

open Float.Model Float.Model.UnpackedFloat Rounding

set_option autoImplicit false

/-! ## Smallest steps -/

/-- The exponent is a variable here, so that no power is ever computed. -/
theorem unit_eq {k : Nat} (places : k = 1074) : unit = ((2 ^ k : Nat) : Int) := by
  unfold unit
  rw [← places, Nat.one_shiftLeft]

theorem two_pow_dvd_unit {t : Nat} (fine : t ≤ 1074) : ((2 ^ t : Nat) : Int) ∣ unit := by
  obtain ⟨k, places⟩ : ∃ k, k = 1074 := ⟨_, rfl⟩
  rw [unit_eq places]
  exact Int.natCast_dvd_natCast.2 (Nat.pow_dvd_pow 2 (by omega))

theorem unit_dvd {u : Nat} (large : 1074 ≤ u) (q : Nat) : unit ∣ ((q * 2 ^ u : Nat) : Int) := by
  obtain ⟨k, places⟩ : ∃ k, k = 1074 := ⟨_, rfl⟩
  rw [unit_eq places]
  exact Int.natCast_dvd_natCast.2 (Nat.dvd_mul_left_of_dvd (Nat.pow_dvd_pow 2 (by omega)) q)

/-! ## Bits -/

section

variable (bits : UInt64)

def signOf : Sign := if bits.toNat < 0x8000000000000000 then .positive else .negative

def exponentOf : Nat := bits.toNat >>> 52 % 0x800

def fractionOf : Nat := bits.toNat % 0x10000000000000

theorem toNat_unpackExponent :
    (@unpackExponent Format.binary64 bits.toBitVec).toNat = exponentOf bits := by
  rw [unpackExponent_def, BitVec.extractLsb'_toNat]
  rfl

theorem toNat_unpackMantissa :
    (@unpackMantissa Format.binary64 bits.toBitVec).toNat = fractionOf bits := by
  rw [unpackMantissa_def, BitVec.extractLsb'_toNat]
  rfl

theorem ofBitVec_unpackSign :
    Sign.ofBitVec (@unpackSign Format.binary64 bits.toBitVec) = signOf bits := by
  have value : (@unpackSign Format.binary64 bits.toBitVec).toNat =
      bits.toNat >>> 63 % 2 := by
    rw [unpackSign_def, BitVec.extractLsb'_toNat]
    rfl
  have whole : bits.toNat < 2 ^ 64 := bits.toBitVec.isLt
  rw [Nat.shiftRight_eq_div_pow] at value
  unfold Sign.ofBitVec signOf
  by_cases small : bits.toNat < 0x8000000000000000
  · have zero : @unpackSign Format.binary64 bits.toBitVec = 0#1 := by
      apply BitVec.eq_of_toNat_eq
      rw [value]
      show _ = 0
      omega
    rw [if_pos zero, if_pos small]
  · have one : @unpackSign Format.binary64 bits.toBitVec ≠ 0#1 := by
      intro zero
      have none : (@unpackSign Format.binary64 bits.toBitVec).toNat = 0 := by rw [zero]; rfl
      omega
    rw [if_neg one, if_neg small]

theorem steps_eq :
    steps bits = (signOf bits).apply ((if exponentOf bits = 0 then fractionOf bits
      else (2 ^ 52 + fractionOf bits) * 2 ^ (exponentOf bits - 1) : Nat) : Int) := by
  have same : Decimal.Binary.ofBits bits =
      if exponentOf bits = 0 then ⟨fractionOf bits, -1074, false⟩
      else ⟨2 ^ 52 + fractionOf bits, (exponentOf bits : Int) - 1075,
        fractionOf bits == 0 && decide (1 < exponentOf bits)⟩ := rfl
  unfold steps signOf
  rw [same]
  by_cases least : exponentOf bits = 0
  · simp only [least, if_true, Nat.shiftLeft_eq]
    split <;> simp [Sign.apply]
  · have place : ((exponentOf bits : Int) - 1075 + 1074).toNat = exponentOf bits - 1 := by omega
    simp only [if_neg least, Nat.shiftLeft_eq, place]
    split <;> simp only [Sign.apply]

variable {bits}

theorem unpackExponent_eq_iff {n : Nat} (fits : n < 2 ^ 11) :
    @unpackExponent Format.binary64 bits.toBitVec = BitVec.ofNat 11 n ↔ exponentOf bits = n := by
  rw [← BitVec.toNat_inj, toNat_unpackExponent, BitVec.toNat_ofNat, Nat.mod_eq_of_lt fits]

/-- The bits of a floating-point value: a finite one but zero, or none with a fraction. -/
theorem unpack_cases (bits : UInt64) :
    (∃ (s : Sign) (q u : Nat) (some : 0 < q),
      UnpackedFloat.unpack Format.binary64 bits.toBitVec = .finite s q ((u : Int) - 1074) some ∧
      Canonical q u ∧ steps bits = s.apply (q * 2 ^ u : Nat)) ∨
    (∀ s q e some, UnpackedFloat.unpack Format.binary64 bits.toBitVec ≠ .finite s q e some) ∧
      unit ∣ steps bits := by
  have short : fractionOf bits < 2 ^ 52 := Nat.mod_lt _ (by decide)
  have exponents : exponentOf bits < 2 ^ 11 := Nat.mod_lt _ (by decide)
  rw [steps_eq]
  by_cases least : exponentOf bits = 0
  · rw [unpack_of_least ((unpackExponent_eq_iff (by decide)).2 least), if_pos least]
    simp only [toNat_unpackMantissa, ofBitVec_unpackSign]
    by_cases some : 0 < fractionOf bits
    · rw [dif_pos some]
      refine .inl ⟨_, _, 0, some, rfl, ⟨by omega, .inl rfl, by decide⟩, ?_⟩
      rw [Nat.pow_zero, Nat.mul_one]
    · have zero : fractionOf bits = 0 := by omega
      rw [dif_neg some, zero]
      exact .inr ⟨fun _ _ _ _ => UnpackedFloat.noConfusion, dvd_apply _ (Int.dvd_zero _)⟩
  · rw [if_neg least]
    by_cases greatest : exponentOf bits = 0x7ff
    · have enough : 1074 ≤ exponentOf bits - 1 := by omega
      have infinite := (unpackExponent_eq_iff (by decide)).2 greatest
      exact .inr ⟨unpack_of_greatest infinite, dvd_apply _ (unit_dvd enough _)⟩
    · have canonical : Canonical (2 ^ 52 + fractionOf bits) (exponentOf bits - 1) :=
        ⟨by omega, .inr (by omega), by omega⟩
      have low := mt (unpackExponent_eq_iff (by decide)).1 least
      have high := mt (unpackExponent_eq_iff (by decide)).1 greatest
      refine .inl ⟨_, _, _, by omega, ?_, canonical, rfl⟩
      rw [unpack_of_between low high]
      simp only [toNat_unpackExponent, toNat_unpackMantissa, ofBitVec_unpackSign]
      congr 1
      omega

end

/-! ## One more -/

section

variable {bits : UInt64} {n : Int} {m a q u : Nat}

theorem steps_pack (canonical : Canonical q u) (some : 0 < q) (s : Sign) :
    steps (Float.Model.pack (.finite s q ((u : Int) - 1074) some)).toBits =
      s.apply (q * 2 ^ u : Nat) := by
  have unpacked := unpack_pack (s := s) canonical some
  rcases unpack_cases (Float.Model.pack (.finite s q ((u : Int) - 1074) some)).toBits with
    ⟨s', q', u', some', finite, -, value⟩ | ⟨other, -⟩
  · have same := unpacked.symm.trans finite
    simp only [UnpackedFloat.finite.injEq] at same
    obtain ⟨rfl, rfl, place⟩ := same
    obtain rfl : u = u' := by omega
    exact value
  · exact absurd unpacked (other _ _ _ _)

/-- A value that is not too great is rounded to a grid that the whole numbers are on. -/
theorem steps_round {k : Nat} (s : Sign) (positive : 0 < m) (small : m * 2 ^ a < 2 ^ k)
    (room : k ≤ 1127) :
    ∃ t, t ≤ 1074 ∧
      Near (steps (Float.Model.pack
        (UnpackedFloat.round Format.binary64 s m ((a : Int) - 1074))).toBits)
        (s.apply m * (2 ^ a : Nat)) t := by
  have place : lastPlace m a ≤ 1074 := Nat.le_trans (lastPlace_le positive small) (by omega)
  obtain ⟨q, u, some, rounds, canonical, near⟩ := round_eq s positive place
  refine ⟨lastPlace m a, place, ?_⟩
  rw [rounds, steps_pack canonical, apply_mul, ← Int.natCast_mul]
  exact near.apply s

theorem steps_normalize {k : Nat} (small : n.natAbs * 2 ^ a < 2 ^ k) (room : k ≤ 1127) :
    ∃ t, t ≤ 1074 ∧
      Near (steps (Float.Model.pack
        (UnpackedFloat.normalize Format.binary64 n ((a : Int) - 1074) .positive)).toBits)
        (n * (2 ^ a : Nat)) t := by
  unfold UnpackedFloat.normalize
  rcases Int.lt_trichotomy n 0 with negative | rfl | positive
  · have magnitude : (-n).toNat = n.natAbs := by omega
    have value : Sign.negative.apply ((-n).toNat : Int) = n := by
      show -((-n).toNat : Int) = n
      omega
    rw [← magnitude] at small
    have rounded := steps_round .negative (by omega) small room
    rw [value] at rounded
    rw [Int.compare_eq_lt.2 negative]
    exact rounded
  · have zero : steps (Float.Model.pack (.zero .positive)).toBits = 0 := by decide +kernel
    refine ⟨0, by decide, ?_⟩
    rw [Int.compare_eq_eq.2 rfl, Int.zero_mul]
    show Near (steps (Float.Model.pack (.zero .positive)).toBits) 0 0
    rw [zero]
    exact ⟨by decide, by decide, by decide⟩
  · have magnitude : n.toNat = n.natAbs := by omega
    have value : Sign.positive.apply (n.toNat : Int) = n := by
      show (n.toNat : Int) = n
      omega
    rw [← magnitude] at small
    have rounded := steps_round .positive (by omega) small room
    rw [value] at rounded
    rw [Int.compare_eq_gt.2 positive]
    exact rounded

theorem unpack_one :
    (1.0 : Float).toModel.unpack = .finite .positive (2 ^ 52) (-52) (by decide) := by
  rfl

/-- A floating-point value with a fraction is finite, and its last place is behind the point. -/
theorem unpack_of_fraction (fraction : ¬ unit ∣ steps bits) :
    ∃ (s : Sign) (q u : Nat) (some : 0 < q),
      (Float.ofBits bits).toModel.unpack = .finite s q ((u : Int) - 1074) some ∧
      q < 2 ^ 53 ∧ u < 1074 ∧ steps bits = s.apply (q * 2 ^ u : Nat) := by
  rcases unpack_cases bits with ⟨s, q, u, some, finite, canonical, value⟩ | ⟨-, whole⟩
  · refine ⟨s, q, u, some, ?_, canonical.short, ?_, value⟩
    · show UnpackedFloat.unpack Format.binary64 (UnpackedFloat.pack Format.binary64
        (UnpackedFloat.unpack Format.binary64 bits.toBitVec)) = _
      rw [finite]
      exact unpack_pack canonical some
    · refine Nat.lt_of_not_le fun large => fraction ?_
      rw [value]
      exact dvd_apply _ (unit_dvd large q)
  · exact absurd whole fraction

/-- The sum of a value with a fraction and one is not too great. -/
theorem natAbs_add_unit_lt {k : Nat} (s : Sign) (short : q < 2 ^ 53) (place : u < k)
    (places : k = 1074) : (s.apply (q * 2 ^ u : Nat) + unit).natAbs < 2 ^ (k + 53) := by
  have total := Int.natAbs_add_le (s.apply (q * 2 ^ u : Nat)) unit
  rw [natAbs_apply, Int.natAbs_natCast, unit_eq places, Int.natAbs_natCast,
    ← unit_eq places] at total
  have first : q * 2 ^ u < 2 ^ 53 * 2 ^ u := Nat.mul_lt_mul_of_pos_right short (Nat.two_pow_pos u)
  have lower : 2 ^ (u + 1) ≤ 2 ^ k := Nat.pow_le_pow_right (by decide) place
  rw [Nat.pow_succ 2 u] at lower
  rw [Nat.pow_add]
  omega

/-- A floating-point value with a fraction is counted up to within a place that a whole step has. -/
theorem steps_next (fraction : ¬ unit ∣ steps bits) :
    ∃ t, t ≤ 1074 ∧ Near (steps (Float.ofBits bits + 1.0).toBits) (steps bits + unit) t := by
  obtain ⟨s, q, u, some, finite, short, place, value⟩ := unpack_of_fraction fraction
  obtain ⟨k, places⟩ : ∃ k, k = 1074 := ⟨_, rfl⟩
  -- Both are brought to the lower one of their places, and added there.
  let a := min u 1022
  have lower : min ((u : Int) - 1074) (-52) = (a : Int) - 1074 := by omega
  have own : ((u : Int) - 1074 - ((a : Int) - 1074)).toNat = u - a := by omega
  have of_one : ((-52 : Int) - ((a : Int) - 1074)).toNat = 1022 - a := by omega
  let n : Int := s.apply (q * 2 ^ (u - a) : Nat) + (2 ^ 52 * 2 ^ (1022 - a) : Nat)
  have sum : (Float.ofBits bits + 1.0).toBits =
      (Float.Model.pack (UnpackedFloat.normalize Format.binary64 n ((a : Int) - 1074) .positive)).toBits := by
    show (Float.Model.pack (UnpackedFloat.add Format.binary64 (Float.ofBits bits).toModel.unpack
      (1.0 : Float).toModel.unpack)).toBits = _
    rw [finite, unpack_one]
    simp only [UnpackedFloat.add, lower, decreaseExponent, own, of_one, Nat.shiftLeft_eq]
    rfl
  have exact : n * (2 ^ a : Nat) = s.apply (q * 2 ^ u : Nat) + unit := by
    have first : 2 ^ (u - a) * 2 ^ a = 2 ^ u := Nat.pow_sub_mul_pow 2 (Nat.min_le_left u 1022)
    have second : 2 ^ 52 * 2 ^ (1022 - a) * 2 ^ a = 2 ^ k := by
      rw [← Nat.pow_add, ← Nat.pow_add]
      congr 1
      omega
    rw [unit_eq places, Int.add_mul, apply_mul, ← Int.natCast_mul, ← Int.natCast_mul,
      Nat.mul_assoc q, first, second]
  have small := natAbs_add_unit_lt s short (show u < k by omega) places
  rw [← exact, Int.natAbs_mul, Int.natAbs_natCast] at small
  rw [sum, value, ← exact]
  exact steps_normalize small (by omega)

/-- **Counting up a fraction.**  One more than a value with a fraction is rounded, but it is more,
and it does not fall behind a whole number that it passes. -/
theorem next?_of_fraction (fraction : ¬ unit ∣ steps bits) :
    ∃ later, (real bits).next? = .ok (real later) ∧ steps bits < steps later ∧
      ∀ n : Int, n * unit ≤ steps bits → (n + 1) * unit ≤ steps later := by
  obtain ⟨t, fine, whole, above, -⟩ := steps_next fraction
  have grid := two_pow_dvd_unit fine
  have place : ((2 ^ t : Nat) : Int) ≤ unit := Int.le_of_dvd unit_pos grid
  refine ⟨_, rfl, by omega, fun n least => ?_⟩
  -- Both stand on the grid, so one that is behind the other is a place behind it.
  refine Int.not_lt.1 fun behind => ?_
  have apart : ((2 ^ t : Nat) : Int) ≤ (n + 1) * unit - _ :=
    Int.le_of_dvd (Int.sub_pos_of_lt behind) (Int.dvd_sub (Int.dvd_mul_of_dvd_right grid) whole)
  rw [Int.add_mul, Int.one_mul] at apart
  omega

end

/-! ## Moving on -/

/-- A floating-point value without a fraction. -/
def IsWholeReal : Cell → Prop
  | real bits => unit ∣ steps bits
  | int _ | text _ | blob _ => False

instance (a : Cell) : Decidable a.IsWholeReal :=
  match a with
  | real bits => inferInstanceAs (Decidable (unit ∣ steps bits))
  | int _ | text _ | blob _ => inferInstanceAs (Decidable False)

/-- The number comes after `a`, and after one more than each integer that is at most `a`. -/
structure Follows (a next : Cell) : Prop where
  number : next.rank = 0
  below : a.below next = true
  further : ∀ m : Int, (int m).atMost a = true → (int (m + 1)).atMost next = true

theorem Follows.of_number {a next : Cell} (left : a.rank = 0) (right : next.rank = 0)
    (less : a.number < next.number)
    (further : ∀ m : Int, m * unit ≤ a.number → (m + 1) * unit ≤ next.number) :
    a.Follows next := by
  refine ⟨right, ?_, fun m least => ?_⟩
  · rw [below_of_numbers left right, decide_eq_true_eq]
    exact less
  · rw [atMost_of_numbers rfl left, decide_eq_true_eq] at least
    rw [atMost_of_numbers rfl right, decide_eq_true_eq]
    exact further m least

theorem Follows.of_atMost {a b next : Cell} (least : a.atMost b = true) (follows : b.Follows next) :
    a.Follows next := by
  refine ⟨follows.number, below_of_atMost_of_below least follows.below, fun m before => ?_⟩
  exact follows.further m (atMost_trans before least)

/-- **Moving on.**  A number is counted up to one that follows it, unless it is a floating-point
value without a fraction. -/
theorem moves_on {a : Cell} (number : a.rank = 0) (fraction : ¬ a.IsWholeReal) :
    ∃ next, a.next? = .ok next ∧ a.Follows next := by
  cases a with
  | int n =>
      have positive := unit_pos
      refine ⟨.int (n + 1), rfl, .of_number rfl rfl ?_ fun m least => ?_⟩
      · exact Int.mul_lt_mul_of_pos_right (Int.lt_succ n) positive
      · show (m + 1) * unit ≤ (n + 1) * unit
        change m * unit ≤ n * unit at least
        rw [Int.add_mul, Int.add_mul]
        omega
  | real bits =>
      obtain ⟨later, counted, less, further⟩ := next?_of_fraction fraction
      exact ⟨.real later, counted, .of_number rfl rfl less further⟩
  | text x => cases number
  | blob content => cases number

end ChainLog.Cell
