/-
# Identifiers

A `Uuid` is a number below 2^128.  Its canonical text is its 32 hexadecimal
digits in lower case, in groups of 8, 4, 4, 4 and 12.  The nil identifier, zero,
stands for "no parent".
-/
import ChainLog.Text.Hex

namespace ChainLog

set_option autoImplicit false

structure Uuid where
  toNat : Nat
  isLt : toNat < 0x100000000000000000000000000000000
deriving DecidableEq

namespace Uuid

/-- The identifier of no record. -/
def nil : Uuid := ⟨0, by decide⟩

instance : Inhabited Uuid := ⟨nil⟩

/-- The identifier of the 128 low bits of a number. -/
def ofNat (n : Nat) : Uuid := ⟨n % 0x100000000000000000000000000000000, Nat.mod_lt _ (by decide)⟩

theorem ext_toNat {a b : Uuid} (h : a.toNat = b.toNat) : a = b := by
  cases a; cases b; simp_all

theorem toNat_ofNat {n : Nat} (h : n < 0x100000000000000000000000000000000) :
    (ofNat n).toNat = n :=
  Nat.mod_eq_of_lt h

theorem ofNat_toNat (u : Uuid) : ofNat u.toNat = u :=
  ext_toNat (toNat_ofNat u.isLt)

/-- The canonical text, as characters. -/
def chars (u : Uuid) : List Char :=
  Text.Hex.digits 8 (u.toNat >>> 96) ++ '-' ::
    (Text.Hex.digits 4 (u.toNat >>> 80) ++ '-' ::
      (Text.Hex.digits 4 (u.toNat >>> 64) ++ '-' ::
        (Text.Hex.digits 4 (u.toNat >>> 48) ++ '-' :: Text.Hex.digits 12 u.toNat)))

/-- The canonical text. -/
def text (u : Uuid) : String := String.ofList u.chars

instance : ToString Uuid := ⟨text⟩

theorem length_chars (u : Uuid) : u.chars.length = 36 := by
  simp [chars, Text.Hex.length_digits]

end Uuid

end ChainLog
