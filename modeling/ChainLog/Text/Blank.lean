/-
# Blanks

The white space that may surround a numeral: the six blanks of plain text, and
beyond plain text every space of Unicode, the separators of category Z and the
next-line control.  The four information separators of plain text are none.
-/

namespace ChainLog.Text

set_option autoImplicit false

/-- The blanks, as ranges of code points, ascending. -/
def blankRanges : List (Nat × Nat) :=
  [(0x09, 0x0d), (0x20, 0x20), (0x85, 0x85), (0xa0, 0xa0), (0x1680, 0x1680), (0x2000, 0x200a),
    (0x2028, 0x2029), (0x202f, 0x202f), (0x205f, 0x205f), (0x3000, 0x3000)]

def isBlank (c : Char) : Bool :=
  blankRanges.any fun r => r.1 ≤ c.toNat && c.toNat ≤ r.2

end ChainLog.Text
