/-
**Bytes.**

The system gives names, paths and arguments as bytes, and they need not be those of any text.  A
text stands for its bytes in UTF-8.  Bytes that are no text are shown as one all the same: each
sequence that begins like a character and breaks off is shown as one replacement character.

Main definitions:

* `Bytes` — bytes, and `bytesOf` — those of a text;
* `frontChar?` — the character with which bytes begin;
* `tailRanges`, `brokenTail` — which bytes may stand behind the first byte of a character, and how
  many do where it breaks off;
* `lossy` — the text as which bytes are shown.
-/

set_option relaxedAutoImplicit false
set_option autoImplicit false

namespace JackSyntax

/-- Bytes, one after the other. -/
abbrev Bytes := List UInt8

/-- The bytes of a text in UTF-8. -/
def bytesOf (text : String) : Bytes := text.toList.flatMap String.utf8EncodeChar

/-- A text stands for its bytes. -/
instance : Coe String Bytes := ⟨bytesOf⟩

/-- The byte of a slash. -/
abbrev slash : UInt8 := 0x2f

/-- The byte of a dot. -/
abbrev dot : UInt8 := 0x2e

/-! ### Characters in front -/

/-- The character with which bytes begin, if they begin with one.  It has four bytes at most. -/
def frontChar? (bytes : Bytes) : Option Char := (bytes.take 4).toByteArray.utf8DecodeChar? 0

/-- The ranges of the bytes that may stand behind the first byte of a character, from the second
byte to the last.  There are none behind a character of one byte, and none behind a byte that is not
the first of any character. -/
def tailRanges (first : UInt8) : List (UInt8 × UInt8) :=
  if first < 0xC2 then []
  else if first < 0xE0 then [(0x80, 0xBF)]
  else if first = 0xE0 then [(0xA0, 0xBF), (0x80, 0xBF)]
  else if first = 0xED then [(0x80, 0x9F), (0x80, 0xBF)]
  else if first < 0xF0 then [(0x80, 0xBF), (0x80, 0xBF)]
  else if first = 0xF0 then [(0x90, 0xBF), (0x80, 0xBF), (0x80, 0xBF)]
  else if first < 0xF4 then [(0x80, 0xBF), (0x80, 0xBF), (0x80, 0xBF)]
  else if first = 0xF4 then [(0x80, 0x8F), (0x80, 0xBF), (0x80, 0xBF)]
  else []

/-- How many bytes in front lie in ranges, one after the other. -/
def brokenTail : List (UInt8 × UInt8) → Bytes → Nat
  | (low, high) :: ranges, byte :: bytes =>
      if low ≤ byte ∧ byte ≤ high then brokenTail ranges bytes + 1 else 0
  | _, _ => 0

/-! ### Bytes as they are shown -/

/-- The character that is shown in place of bytes that make no character. -/
def replacement : Char := '\uFFFD'

/-- The characters as which bytes are shown that stand behind some others. -/
def shownAfter : Nat → Bytes → List Char
  | _, [] => []
  | skipped + 1, _ :: bytes => shownAfter skipped bytes
  | 0, byte :: bytes =>
      match frontChar? (byte :: bytes) with
      | some c => c :: shownAfter (c.utf8Size - 1) bytes
      | none => replacement :: shownAfter (brokenTail (tailRanges byte) bytes) bytes

/-- The text as which bytes are shown. -/
def lossy (bytes : Bytes) : String := String.ofList (shownAfter 0 bytes)

end JackSyntax
