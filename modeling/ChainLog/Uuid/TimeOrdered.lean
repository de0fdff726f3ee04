/-
# Time-ordered identifiers

Version 7: from the top, 48 bits of milliseconds since the epoch, the version,
12 random bits, the variant, 62 random bits.  Later milliseconds give larger
identifiers.  Milliseconds outside 48 bits, negative ones included, wrap.
-/
import ChainLog.Sorted
import ChainLog.Uuid

namespace ChainLog.Uuid

set_option autoImplicit false

/-- The number of a version 7 identifier for `ms` milliseconds and the random
number `rand`, of which the 74 low bits are used. -/
def timeOrderedNat (ms : Int) (rand : Nat) : Nat :=
  (ms % 0x1000000000000).toNat <<< 80 + 7 <<< 76 + (rand >>> 62 % 0x1000) <<< 64 + 2 <<< 62
    + rand % 0x4000000000000000

theorem timeOrderedNat_lt (ms : Int) (rand : Nat) :
    timeOrderedNat ms rand < 0x100000000000000000000000000000000 := by
  unfold timeOrderedNat
  omega

/-- A version 7 identifier. -/
def timeOrdered (ms : Int) (rand : Nat) : Uuid :=
  ⟨timeOrderedNat ms rand, timeOrderedNat_lt ms rand⟩

/-- The milliseconds of a version 7 identifier. -/
def milliseconds (u : Uuid) : Nat := u.toNat >>> 80

/-- The version field. -/
def version (u : Uuid) : Nat := u.toNat >>> 76 % 0x10

/-- The variant field. -/
def variant (u : Uuid) : Nat := u.toNat >>> 62 % 4

/-- Identifiers in ascending order. -/
def sortAscending (us : List Uuid) : List Uuid :=
  Sorted.sort (fun a b => a.toNat ≤ b.toNat) us

/-- Bytes as one number, the first byte the most significant. -/
def bigEndian (bytes : List UInt8) : Nat :=
  bytes.foldl (fun n b => n * 256 + b.toNat) 0

/-- Milliseconds since the epoch of a time in nanoseconds. -/
def millisecondsOfNanoseconds (ns : Int) : Int := ns.fdiv 1000000

end ChainLog.Uuid
