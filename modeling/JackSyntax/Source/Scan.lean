/-
**A source as its tokens.**

Main definitions:

* `Ending` — how the tokens of a source end: with the source, or with a lexical error;
* `Scan` — the tokens of a source, each with the line on which it begins, and their ending;
* `scan` — the scan of a source;
* `tokenize` — the tokens alone, or the error that cuts them off.
-/

import JackSyntax.Source.Cursor

set_option relaxedAutoImplicit false
set_option autoImplicit false

namespace JackSyntax

/-- How the tokens of a source end. -/
inductive Ending where
  /-- The source ends on the given line. -/
  | atEnd (line : Nat)
  /-- What follows the tokens is none. -/
  | failed (error : LexError)
  deriving DecidableEq

/-- The line on which the tokens of a source end. -/
def Ending.line : Ending → Nat
  | .atEnd line => line
  | .failed error => error.line

/-- A source as a sequence of tokens. -/
structure Scan where
  tokens : List (Located Token)
  ending : Ending
  deriving DecidableEq

/-- Reads all tokens from a position on.  The tokens of `passed`, latest first, come before
them. -/
def Cursor.scanFrom (passed : List (Located Token)) (c : Cursor) : Scan :=
  if c.rest.isEmpty then ⟨passed.reverse, .atEnd c.line⟩
  else
    match _h : readToken c.rest with
    | .ok (token, rest) =>
        scanFrom (⟨c.line, token⟩ :: passed) (skipTrivia ⟨rest, c.line⟩)
    | .error fault => ⟨passed.reverse, .failed ⟨c.line, fault⟩⟩
termination_by c.rest.length
decreasing_by
  exact Nat.lt_of_le_of_lt (skipTrivia_length_le ⟨rest, c.line⟩) (readToken_length_lt _h)

/-- The scan of a source. -/
def scan (source : String) : Scan := (Cursor.ofSource source).scanFrom []

namespace Scan

/-- The tokens without their lines, or the error that cuts them off. -/
def result (s : Scan) : Except LexError (List Token) :=
  match s.ending with
  | .atEnd _ => .ok (s.tokens.map Located.item)
  | .failed error => .error error

/-- The next token, if there is one. -/
def lookahead (s : Scan) : Option Token := s.tokens.head?.map Located.item

/-- The line of the next token, or of the ending where there is none. -/
def line (s : Scan) : Nat :=
  match s.tokens with
  | token :: _ => token.line
  | [] => s.ending.line

end Scan

/-- The tokens of a source, or its lexical error. -/
def tokenize (source : String) : Except LexError (List Token) := (scan source).result

end JackSyntax
