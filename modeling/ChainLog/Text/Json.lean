/-
# JSON in plain characters

Objects of texts, numbers and objects, indented by two blanks a level, with every
character outside printable ASCII escaped; characters beyond the sixteen-bit range
are escaped as two halves.
-/
import ChainLog.Decimal.Layout
import ChainLog.Text.Hex

namespace ChainLog.Text.Json

set_option autoImplicit false

inductive Document where
  | number (n : Int)
  | decimal (x : Float)
  | text (s : String)
  | object (members : List (String × Document))

def escapeUnit (n : Nat) : List Char := ['\\', 'u'] ++ Hex.digits 4 n

def escape (c : Char) : List Char :=
  let n := c.toNat
  if n = 0x22 ∨ n = 0x5c then ['\\', c]
  else if n = 0x0a then ['\\', 'n']
  else if n = 0x0d then ['\\', 'r']
  else if n = 0x09 then ['\\', 't']
  else if n = 0x0c then ['\\', 'f']
  else if n = 0x08 then ['\\', 'b']
  else if 0x20 ≤ n ∧ n < 0x7f then [c]
  else if n < 0x10000 then escapeUnit n
  else escapeUnit (0xd800 + (n - 0x10000) / 0x400) ++ escapeUnit (0xdc00 + (n - 0x10000) % 0x400)

def string (s : String) : String :=
  "\"" ++ String.ofList (s.toList.flatMap escape) ++ "\""

/-- The layout of floating-point values. -/
def decimals : Decimal.Layout := { Decimal.plain with nan := "NaN", infinity := "Infinity" }

def indentation (level : Nat) : String := String.ofList (List.replicate (2 * level) ' ')

mutual

def render (level : Nat) : Document → String
  | .number n => toString n
  | .decimal x => decimals.float x
  | .text s => string s
  | .object [] => "\x7b\x7d"
  | .object (m :: r) =>
      "\x7b\n" ++ renderMember (level + 1) m ++ renderRest (level + 1) r ++ "\n"
        ++ indentation level ++ "\x7d"

def renderMember (level : Nat) : String × Document → String
  | (key, d) => indentation level ++ string key ++ ": " ++ render level d

def renderRest (level : Nat) : List (String × Document) → String
  | [] => ""
  | m :: r => ",\n" ++ renderMember level m ++ renderRest level r

end

/-- A document on lines of its own. -/
def pretty (d : Document) : String := render 0 d

end ChainLog.Text.Json
