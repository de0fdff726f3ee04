/-
# The fields of time-ordered identifiers

A time-ordered identifier is five fields side by side (`packed_eq`): no field reaches into another,
so each is read back from it, and together they are all that it tells apart (`layout_exact`).  What
is lost of the milliseconds and of the random number are the bits that no field has room for.
-/
import ChainLog.Uuid.Fresh
import Mathlib.Data.Nat.Bitwise

namespace ChainLog.Uuid

set_option autoImplicit false

variable {ms ms' : Int} {rand rand' : Nat}

/-- The 12 random bits below the version. -/
def upperRandom (u : Uuid) : Nat := u.toNat >>> 64 % 0x1000

/-- The 62 random bits below the variant. -/
def lowerRandom (u : Uuid) : Nat := u.toNat % 0x4000000000000000

/-- The random bits that an identifier has, as one number. -/
def random (u : Uuid) : Nat := u.upperRandom <<< 62 + u.lowerRandom

/-- The five fields, each cut to its width, shifted to its place and put in bit by bit. -/
def packed (ms : Int) (rand : Nat) : Nat :=
  (ms % 0x1000000000000).toNat <<< 80 ||| 7 <<< 76 ||| (rand >>> 62 &&& 0xfff) <<< 64 ||| 2 <<< 62
    ||| rand &&& 0x3fffffffffffffff

/-- No field overlaps with the ones below it, so putting them in adds them up. -/
theorem packed_eq (ms : Int) (rand : Nat) : packed ms rand = timeOrderedNat ms rand := by
  have upper : rand >>> 62 &&& 0xfff = rand >>> 62 % 0x1000 := Nat.and_two_pow_sub_one_eq_mod _ 12
  have lower : rand &&& 0x3fffffffffffffff = rand % 0x4000000000000000 :=
    Nat.and_two_pow_sub_one_eq_mod _ 62
  have add {high low k : Nat} (below : low < 2 ^ k) : high <<< k ||| low = high <<< k + low :=
    (Nat.shiftLeft_add_eq_or_of_lt below high).symm
  unfold packed timeOrderedNat
  rw [upper, lower]
  simp only [Nat.or_assoc]
  rw [add (k := 62) (by omega), add (k := 64) (by omega), add (k := 76) (by omega),
    add (k := 80) (by omega)]
  omega

/-! ## Each field by itself -/

theorem milliseconds_timeOrdered (ms : Int) (rand : Nat) :
    ((timeOrdered ms rand).milliseconds : Int) = ms % 0x1000000000000 := by
  simp only [milliseconds, timeOrdered, timeOrderedNat]
  omega

theorem version_timeOrdered (ms : Int) (rand : Nat) : (timeOrdered ms rand).version = 7 := by
  simp only [version, timeOrdered, timeOrderedNat]
  omega

theorem variant_timeOrdered (ms : Int) (rand : Nat) : (timeOrdered ms rand).variant = 2 := by
  simp only [variant, timeOrdered, timeOrderedNat]
  omega

theorem random_timeOrdered (ms : Int) (rand : Nat) :
    (timeOrdered ms rand).random = rand % 0x4000000000000000000 := by
  simp only [random, upperRandom, lowerRandom, timeOrdered, timeOrderedNat]
  omega

/-- The nil identifier has no version. -/
theorem timeOrdered_ne_nil (ms : Int) (rand : Nat) : timeOrdered ms rand ≠ nil := by
  intro same
  have version := version_timeOrdered ms rand
  rw [same] at version
  cases version

/-- An identifier has no more in it than its milliseconds and its random bits. -/
theorem timeOrdered_eq_iff : timeOrdered ms rand = timeOrdered ms' rand' ↔
    ms % 0x1000000000000 = ms' % 0x1000000000000 ∧
      rand % 0x4000000000000000000 = rand' % 0x4000000000000000000 := by
  constructor
  · intro same
    rw [← milliseconds_timeOrdered ms rand, ← milliseconds_timeOrdered ms' rand',
      ← random_timeOrdered ms rand, ← random_timeOrdered ms' rand', same]
    exact ⟨rfl, rfl⟩
  · rintro ⟨time, random⟩
    have upper : rand >>> 62 % 0x1000 = rand' >>> 62 % 0x1000 := by omega
    have lower : rand % 0x4000000000000000 = rand' % 0x4000000000000000 := by omega
    refine ext_toNat ?_
    simp only [timeOrdered, timeOrderedNat, time, upper, lower]

/-- **The layout is exact.**  For any milliseconds and any random bytes there is an identifier whose
fields are the version, the variant, the 48 low bits of the milliseconds and the 74 low bits of the
random number.  It is not nil, and two of them are equal exactly if these bits are. -/
theorem layout_exact (bytes bytes' : List UInt8) (ms ms' clock clock' : Int) :
    packed ms (bigEndian bytes) < 0x100000000000000000000000000000000 ∧
    ∃ u v, fresh bytes (.int ms) clock = .ok u ∧ fresh bytes' (.int ms') clock' = .ok v ∧
      u.toNat = packed ms (bigEndian bytes) ∧ u.version = 7 ∧ u.variant = 2 ∧
      (u.milliseconds : Int) = ms % 0x1000000000000 ∧
      u.random = bigEndian bytes % 0x4000000000000000000 ∧
      u ≠ nil ∧
      (u = v ↔ ms % 0x1000000000000 = ms' % 0x1000000000000 ∧
        bigEndian bytes % 0x4000000000000000000 = bigEndian bytes' % 0x4000000000000000000) := by
  rw [packed_eq]
  exact ⟨timeOrderedNat_lt ms _, timeOrdered ms (bigEndian bytes), timeOrdered ms' (bigEndian bytes'),
    rfl, rfl, rfl, version_timeOrdered ms _, variant_timeOrdered ms _, milliseconds_timeOrdered ms _,
    random_timeOrdered ms _, timeOrdered_ne_nil ms _, timeOrdered_eq_iff⟩

end ChainLog.Uuid
