/-
# Reading identifiers

Many spellings name one identifier.  Every `urn:` is removed, then every
`uuid:`, then the braces at both ends, then every hyphen; what is left must be
32 characters long and a base-16 numeral.  The length is that of the text, not
of the number, so blanks, a sign, a `0x` and underscores take the place of
digits.
-/
import ChainLog.Text.Numeral
import ChainLog.Text.Quoted
import ChainLog.Uuid

namespace ChainLog.Uuid

set_option autoImplicit false

open ChainLog.Text

/-- Why a text names no identifier. -/
inductive ReadError where
  /-- Not 32 characters are left after the removals. -/
  | badlyFormed
  /-- The 32 characters are no base-16 numeral. -/
  | notHexadecimal (rest : String)
deriving DecidableEq, Repr

def ReadError.message : ReadError → String
  | .badlyFormed => "badly formed hexadecimal UUID string"
  | .notHexadecimal rest => "invalid literal for int() with base 16: " ++ quotedUpTo 200 rest

/-- Remove every occurrence of `pattern`, from left to right; `skip` characters
of an occurrence are still to be dropped. -/
def removeFrom (pattern : List Char) : Nat → List Char → List Char
  | _, [] => []
  | skip + 1, _ :: s => removeFrom pattern skip s
  | 0, c :: s =>
      if pattern.isPrefixOf (c :: s) then removeFrom pattern (pattern.length - 1) s
      else c :: removeFrom pattern 0 s

/-- Remove every occurrence of a nonempty `pattern`. -/
def removeAll (pattern s : List Char) : List Char :=
  removeFrom pattern 0 s

def isBrace (c : Char) : Bool := c == '{' || c == '}'

/-- Remove the braces at both ends. -/
def stripBraces (s : List Char) : List Char :=
  ((s.dropWhile isBrace).reverse.dropWhile isBrace).reverse

/-- What is left of a spelling when labels, braces and hyphens are removed. -/
def core (s : List Char) : List Char :=
  (stripBraces (removeAll "uuid:".toList (removeAll "urn:".toList s))).filter (· != '-')

/-- The identifier that a text spells. -/
def readChars (s : List Char) : Except ReadError Uuid :=
  if (core s).length = 32 then
    match Numeral.read .sixteen (core s) with
    | .ok (.ofNat n) =>
        if h : n < 0x100000000000000000000000000000000 then .ok ⟨n, h⟩
        else .error (.notHexadecimal (String.ofList (core s)))
    | _ => .error (.notHexadecimal (String.ofList (core s)))
  else .error .badlyFormed

def read (s : String) : Except ReadError Uuid :=
  readChars s.toList

end ChainLog.Uuid
