/-
# Words

The numbers of the tables are integers of 64 bits with a sign.
-/

namespace ChainLog

set_option autoImplicit false

/-- The integers that a column holds: signed, of 64 bits. -/
def IsWord (n : Int) : Prop := -0x8000000000000000 ≤ n ∧ n < 0x8000000000000000

instance (n : Int) : Decidable (IsWord n) :=
  inferInstanceAs (Decidable (_ ∧ _))

end ChainLog
