/-
**A position in a source.**

A cursor rests on the first character of a token or at the end of the source: trivia is skipped as
soon as it is met, at the beginning and behind each token.  After a lexical error the cursor stands
at the end of the source, but keeps the line of the error.

Main definitions:

* `Cursor` — the text that remains, and the line on which it begins;
* `Cursor.ofSource` — the position of the first token of a source;
* `Cursor.hasMore` — whether any text remains;
* `Cursor.nextToken` — the next token or the error that stands in its place;
* `Cursor.next?` — the same, with nothing where nothing remains.

Main results:

* `Cursor.skipTrivia_length_le` — skipping never lengthens the text.
-/

import JackSyntax.Source.Lexeme
import JackSyntax.Source.Located
import JackSyntax.Source.Trivia

set_option relaxedAutoImplicit false
set_option autoImplicit false

namespace JackSyntax

/-- A lexical error: its cause, on its line. -/
abbrev LexError := Located LexFault

/-- The diagnostic of a lexical error. -/
def LexError.message (error : LexError) : String := atLine error.line error.item.message

/-- A position in a source. -/
structure Cursor where
  /-- The text that has not been read yet. -/
  rest : List Char
  /-- The line on which that text begins. -/
  line : Nat
  deriving DecidableEq

namespace Cursor

/-- The position behind all trivia at a cursor.  The line advances by the line feeds passed. -/
def skipTrivia (c : Cursor) : Cursor :=
  match _h : splitTrivia? c.rest with
  | some (piece, rest) => skipTrivia ⟨rest, c.line + piece.count '\n'⟩
  | none => c
termination_by c.rest.length
decreasing_by exact splitTrivia?_length_lt _h

theorem skipTrivia_length_le (c : Cursor) : c.skipTrivia.rest.length ≤ c.rest.length := by
  fun_induction skipTrivia c with
  | case1 c piece rest h ih => exact Nat.le_trans ih (Nat.le_of_lt (splitTrivia?_length_lt h))
  | case2 => exact Nat.le_refl _

/-- The position of the first token of a source. -/
def ofSource (source : String) : Cursor := skipTrivia ⟨source.toList, 1⟩

/-- Whether any text remains. -/
def hasMore (c : Cursor) : Bool := !c.rest.isEmpty

/-- Reads the next token.  On an error nothing remains to be read. -/
def nextToken (c : Cursor) : Except LexError Token × Cursor :=
  match readToken c.rest with
  | .ok (token, rest) => (.ok token, skipTrivia ⟨rest, c.line⟩)
  | .error fault => (.error ⟨c.line, fault⟩, ⟨[], c.line⟩)

/-- Reads the next token if any text remains. -/
def next? (c : Cursor) : Option (Except LexError Token) × Cursor :=
  if c.hasMore then (some c.nextToken.1, c.nextToken.2) else (none, c)

end Cursor

end JackSyntax
