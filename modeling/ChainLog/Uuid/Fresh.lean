/-
# Fresh identifiers

A fresh identifier is made for the milliseconds that are given, or for those of
the clock if none are.  What is given need not be a whole number.
-/
import ChainLog.Uuid.TimeOrdered
import ChainLog.Value

namespace ChainLog.Uuid

set_option autoImplicit false

/-- The milliseconds given are of this type, and no whole number. -/
structure FreshError where
  typeName : String
deriving DecidableEq, Repr

def FreshError.message (e : FreshError) : String :=
  "unsupported operand type(s) for &: '" ++ e.typeName ++ "' and 'int'"

/-- A fresh identifier from random bytes, the time given, and the clock. -/
def fresh (random : List UInt8) (given : Value) (clock : Int) : Except FreshError Uuid :=
  match given.toInt?, given with
  | some ms, _ => .ok (timeOrdered ms (bigEndian random))
  | none, .none => .ok (timeOrdered (millisecondsOfNanoseconds clock) (bigEndian random))
  | none, v => .error ⟨v.typeName⟩

end ChainLog.Uuid
