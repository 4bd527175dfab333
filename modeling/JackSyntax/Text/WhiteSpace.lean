/-
**White space.**

The characters with the Unicode property White_Space: twenty-five of them, in ten ranges.

Main definitions:

* `isWhiteSpace` — the property.
-/

import JackSyntax.Text.CodePointRanges

set_option relaxedAutoImplicit false
set_option autoImplicit false

namespace JackSyntax

/-- The code points of the property White_Space. -/
def whiteSpaceRanges : CodePointRanges :=
  [(0x09, 0x0D), (0x20, 0x20), (0x85, 0x85), (0xA0, 0xA0), (0x1680, 0x1680), (0x2000, 0x200A),
   (0x2028, 0x2029), (0x202F, 0x202F), (0x205F, 0x205F), (0x3000, 0x3000)]

/-- Whether a character has the property White_Space. -/
def isWhiteSpace (c : Char) : Bool := whiteSpaceRanges.contains c.toNat

theorem whiteSpaceRanges_ascending : whiteSpaceRanges.isAscending = true := by decide

end JackSyntax
