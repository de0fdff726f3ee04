/-
# Integer numerals

An integer may be written with blanks around it, a sign, single underscores
between its digits, and the decimal digits of any script.  In base 16 the letters
a to f of either case are digits too, and a `0x` may stand in front, followed by
one underscore at most.

`read` is a pipeline over the characters, each in its plain form: blanks and sign,
base mark, the run of digits and underscores, blanks.  A base may limit the number
of digits; leading zeros count.  The limit is checked as soon as the run of digits
is known to be well formed, so it wins over whatever follows the run.
-/
import ChainLog.Text.Blank
import ChainLog.Text.DecimalDigit
import ChainLog.Text.Quoted

namespace ChainLog.Text.Numeral

set_option autoImplicit false

/-- The plain form of a character: the blanks beyond plain text become a space, and
the digits of all scripts the ten plain ones, so that a zero of any script may begin
a base mark. -/
def plain (c : Char) : Char :=
  if isBlank c then (if c.toNat < 0x80 then c else ' ')
  else
    match decimalDigit? c with
    | some d => Char.ofNat (0x30 + d)
    | none => c

inductive Base where
  | ten
  | sixteen
deriving DecidableEq, Repr

namespace Base

def value : Base → Nat
  | ten => 10
  | sixteen => 16

def letter? (c : Char) : Option Nat :=
  if 'a' ≤ c ∧ c ≤ 'f' then some (c.toNat - 87)
  else if 'A' ≤ c ∧ c ≤ 'F' then some (c.toNat - 55)
  else none

def digit? (b : Base) (c : Char) : Option Nat :=
  match decimalDigit? c, b with
  | some d, _ => some d
  | none, ten => none
  | none, sixteen => letter? c

/-- Decimal numerals have at most 4300 digits. -/
def digitLimit? : Base → Option Nat
  | ten => some 4300
  | sixteen => none

end Base

/-- Why a text is no numeral. -/
inductive Error where
  | malformed
  | tooManyDigits (limit count : Nat)
deriving DecidableEq, Repr

/-- Why a text is no decimal numeral; the text is cut to its first 200 characters. -/
def Error.message (text : String) : Error → String
  | malformed => "invalid literal for int() with base 10: " ++ quotedUpTo 200 text
  | tooManyDigits limit count =>
      "Exceeds the limit (" ++ toString limit
        ++ " digits) for integer string conversion: value has " ++ toString count
        ++ " digits; use sys.set_int_max_str_digits() to increase the limit"

/-- The sign in front, `true` for minus, and the rest. -/
def takeSign : List Char → Bool × List Char
  | '-' :: r => (true, r)
  | '+' :: r => (false, r)
  | r => (false, r)

/-- The text after the base mark, if the base has one and it is there. -/
def dropMark : Base → List Char → List Char
  | .sixteen, '0' :: 'x' :: '_' :: r => r
  | .sixteen, '0' :: 'X' :: '_' :: r => r
  | .sixteen, '0' :: 'x' :: r => r
  | .sixteen, '0' :: 'X' :: r => r
  | _, r => r

/-- The characters of the longest run of digits and underscores, and what follows. -/
def span (b : Base) (s : List Char) : List Char × List Char :=
  let inRun := fun c => c == '_' || (b.digit? c).isSome
  (s.takeWhile inRun, s.dropWhile inRun)

/-- The digits of a run, if it begins and ends with a digit and no two
underscores meet. -/
def runDigits? (b : Base) : List Char → Option (List Nat)
  | [] => none
  | [c] => (b.digit? c).map ([·])
  | c :: '_' :: r => do
      let d ← b.digit? c
      let ds ← runDigits? b r
      return d :: ds
  | c :: r => do
      let d ← b.digit? c
      let ds ← runDigits? b r
      return d :: ds

def valueOf (b : Base) (digits : List Nat) : Nat :=
  digits.foldl (fun n d => n * b.value + d) 0

def read (b : Base) (s : List Char) : Except Error Int :=
  let (negative, body) := takeSign ((s.map plain).dropWhile isBlank)
  let (run, rest) := span b (dropMark b body)
  match runDigits? b run with
  | none => .error .malformed
  | some digits =>
      match b.digitLimit?.filter (· < digits.length) with
      | some limit => .error (.tooManyDigits limit digits.length)
      | none =>
          if rest.all isBlank then
            .ok (if negative then -(valueOf b digits : Int) else valueOf b digits)
          else .error .malformed

end ChainLog.Text.Numeral
