/-
# Quoted text in messages

A text that a message repeats stands between quotes, so that blanks at its ends
and characters without a glyph can be seen.  The quote is the apostrophe, or the
double quote when the text holds apostrophes and no double quote.  The quote and
the backslash are escaped by a backslash, the three common layout controls by a
letter, every other unprintable character by its code point in hexadecimal, two,
four or eight digits wide.  Bytes are quoted alike after a `b`; there every byte
outside printable ASCII is written in two digits.
-/
import ChainLog.Text.Hex
import ChainLog.Text.Printable

namespace ChainLog.Text.Quoted

set_option autoImplicit false

def apostrophe : Char := Char.ofNat 0x27

def doubleQuote : Char := Char.ofNat 0x22

/-- The quote that surrounds a text. -/
def mark (s : List Char) : Char :=
  if s.contains apostrophe && !s.contains doubleQuote then doubleQuote else apostrophe

/-- The code point of a character, at the least of the widths two, four and eight. -/
def escapeCode (c : Char) : List Char :=
  if c.toNat < 0x100 then ['\\', 'x'] ++ Hex.digits 2 c.toNat
  else if c.toNat < 0x10000 then ['\\', 'u'] ++ Hex.digits 4 c.toNat
  else ['\\', 'U'] ++ Hex.digits 8 c.toNat

def escape (q c : Char) : List Char :=
  if c = q ∨ c = '\\' then ['\\', c]
  else if c = '\t' then ['\\', 't']
  else if c = '\n' then ['\\', 'n']
  else if c = '\r' then ['\\', 'r']
  else if isPrintable c then [c]
  else escapeCode c

def encode (s : List Char) : List Char :=
  [mark s] ++ s.flatMap (escape (mark s)) ++ [mark s]

/-- One byte; `escaped` is the quote that is escaped. -/
def encodeByte (escaped : Char) (b : UInt8) : List Char :=
  let c := Char.ofNat b.toNat
  if c = escaped ∨ c = '\\' then ['\\', c]
  else if c = '\t' then ['\\', 't']
  else if c = '\n' then ['\\', 'n']
  else if c = '\r' then ['\\', 'r']
  else if 0x20 ≤ b.toNat ∧ b.toNat < 0x7f then [c]
  else ['\\', 'x'] ++ Hex.digits 2 b.toNat

/-- The quote that surrounds bytes. -/
def markBytes (bytes : List UInt8) : Char :=
  mark (bytes.map fun b => Char.ofNat b.toNat)

def encodeBytes (bytes : List UInt8) : List Char :=
  ['b', markBytes bytes] ++ bytes.flatMap (encodeByte (markBytes bytes)) ++ [markBytes bytes]

/-- The bytes of a buffer that may change: the apostrophe is escaped also between
double quotes. -/
def encodeBuffer (bytes : List UInt8) : List Char :=
  ['b', markBytes bytes] ++ bytes.flatMap (encodeByte apostrophe) ++ [markBytes bytes]

end ChainLog.Text.Quoted

namespace ChainLog.Text

set_option autoImplicit false

/-- A text in quotes. -/
def quoted (s : String) : String :=
  String.ofList (Quoted.encode s.toList)

/-- A text in quotes, cut to the first `n` characters of its quoted form. -/
def quotedUpTo (n : Nat) (s : String) : String :=
  String.ofList ((Quoted.encode s.toList).take n)

end ChainLog.Text
