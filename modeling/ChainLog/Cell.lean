/-
# Cells

A cell is what a table holds in one column of one row: an integer, a floating-point
value, a text or bytes.  The columns of numbers and of texts are not strict about
that, so a cell of either may be of any of the four kinds.

`order` is the order of the tables: numbers before texts before bytes, numbers by
their exact value whatever their kind.  Readers compare and count up cells by rules
of their own, which refuse to mix the kinds (`isBelow?`, `next?`).
-/
import ChainLog.Value

namespace ChainLog

set_option autoImplicit false

inductive Cell where
  | int (n : Int)
  /-- A floating-point value by its bits; it is a number. -/
  | real (bits : UInt64)
  | text (s : String)
  | blob (content : List UInt8)
deriving DecidableEq, Repr

instance : Inhabited Cell := ⟨.int 0⟩

/-- Why two values cannot be compared or added. -/
inductive OperandError where
  | notOrdered (left right : String)
  | textPlusNumber
  | bytesPlusNumber
deriving DecidableEq, Repr

def OperandError.message : OperandError → String
  | notOrdered left right =>
      "'<' not supported between instances of '" ++ left ++ "' and '" ++ right ++ "'"
  | textPlusNumber => "can only concatenate str (not \"int\") to str"
  | bytesPlusNumber => "can't concat int to bytes"

namespace Cell

/-- The value that a reader is given. -/
def value : Cell → Value
  | int n => .int n
  | real bits => .float (Float.ofBits bits)
  | text s => .text s
  | blob content => .bytes .bytes content

def display (c : Cell) : String := c.value.display

/-! ## The order of the tables -/

/-- The smallest step between floating-point values, 2^-1074, goes this often into
one. -/
def unit : Int := ((1 <<< 1074 : Nat) : Int)

/-- A floating-point value in smallest steps, of which it has a whole number. -/
def steps (bits : UInt64) : Int :=
  let b := Decimal.Binary.ofBits bits
  let magnitude : Int := ((b.m <<< (b.q + 1074).toNat : Nat) : Int)
  if bits.toNat < 0x8000000000000000 then magnitude else -magnitude

/-- Numbers come before texts, and texts before bytes. -/
def rank : Cell → Nat
  | int _ | real _ => 0
  | text _ => 1
  | blob _ => 2

/-- The value of a number in smallest steps. -/
def number : Cell → Int
  | int n => n * unit
  | real bits => steps bits
  | text _ | blob _ => 0

def characters : Cell → String
  | text s => s
  | int _ | real _ | blob _ => ""

/-- The bytes as numbers. -/
def octets : Cell → List Nat
  | blob content => content.map UInt8.toNat
  | int _ | real _ | text _ => []

/-- The order of any two cells, one aspect after the other. -/
def orderByAspects (a b : Cell) : Ordering :=
  (compare a.rank b.rank).then <| (compare a.number b.number).then <|
    (compare a.characters b.characters).then (List.compareLex compare a.octets b.octets)

/-- The order of the tables; two integers are compared as they are. -/
def order : Cell → Cell → Ordering
  | int m, int n => compare m n
  | a, b => orderByAspects a b

def below (a b : Cell) : Bool := order a b == .lt

def atMost (a b : Cell) : Bool := order a b != .gt

/-- The same for the keys of the tables: of one value, whatever the kind of number. -/
def same (a b : Cell) : Bool := order a b == .eq

/-! ## What readers do with cells -/

/-- Below, for cells that a reader can compare: two numbers, two texts or two byte
strings. -/
def isBelow? (a b : Cell) : Except OperandError Bool :=
  if a.rank = b.rank then .ok (below a b)
  else .error (.notOrdered a.value.typeName b.value.typeName)

/-- One more, for numbers. -/
def next? : Cell → Except OperandError Cell
  | int n => .ok (int (n + 1))
  | real bits => .ok (real (Float.ofBits bits + 1.0).toBits)
  | text _ => .error .textPlusNumber
  | blob _ => .error .bytesPlusNumber

end Cell

end ChainLog
