/-
# Reading floating-point values

Blanks around the text, a sign, and then `nan`, `inf`, `infinity` in any case, or
digits with at most one point and an optional exponent.  Single underscores may
stand between digits, and the digits may be those of any script.
-/
import ChainLog.Text.Numeral

namespace ChainLog.Decimal

set_option autoImplicit false

def isDigit (c : Char) : Bool := '0' ≤ c && c ≤ '9'

/-- Drop underscores that stand between two digits. -/
def dropSeparators : List Char → List Char
  | a :: '_' :: b :: r =>
      if isDigit a && isDigit b then a :: dropSeparators (b :: r)
      else a :: '_' :: dropSeparators (b :: r)
  | c :: r => c :: dropSeparators r
  | [] => []

def natOf (digits : List Char) : Nat :=
  digits.foldl (fun n c => n * 10 + (c.toNat - 48)) 0

def readExponent? : List Char → Option Int
  | [] => some 0
  | e :: r =>
      if e == 'e' || e == 'E' then
        let (negative, ds) : Bool × List Char :=
          match r with
          | '-' :: t => (true, t)
          | '+' :: t => (false, t)
          | t => (false, t)
        if ds ≠ [] ∧ ds.all isDigit then
          some (if negative then -(natOf ds : Int) else natOf ds)
        else none
      else none

def readUnsigned? (s : List Char) : Option Float :=
  let whole := s.takeWhile isDigit
  let rest := s.dropWhile isDigit
  let (fraction, rest) : List Char × List Char :=
    match rest with
    | '.' :: r => (r.takeWhile isDigit, r.dropWhile isDigit)
    | r => ([], r)
  if whole = [] ∧ fraction = [] then none
  else do
    let e ← readExponent? rest
    let exp := e - (fraction.length : Int)
    return Float.ofScientific (natOf (whole ++ fraction)) (decide (exp < 0)) exp.natAbs

def readMagnitude? (s : List Char) : Option Float :=
  let word := s.map Char.toLower
  if word = "nan".toList then some (0.0 / 0.0)
  else if word = "inf".toList ∨ word = "infinity".toList then some (1.0 / 0.0)
  else readUnsigned? (dropSeparators s)

def read? (text : String) : Option Float :=
  let chars := text.toList.map Text.Numeral.plain
  let body := (chars.dropWhile Text.isBlank).reverse.dropWhile Text.isBlank |>.reverse
  match body with
  | '-' :: r => (readMagnitude? r).map (- ·)
  | '+' :: r => readMagnitude? r
  | r => readMagnitude? r

end ChainLog.Decimal
