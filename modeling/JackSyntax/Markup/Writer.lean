/-
**Writing nested elements.**

Elements are written one tag or one leaf to a line, and each line is indented by a tab for every
element that is open.

Main definitions:

* `Mark` — what a line holds: an opening tag, a closing tag, a leaf or a token;
* `Mark.text`, `Mark.indentation`, `Mark.depthAfter` — its text, its indentation, and the number of
  open elements behind it;
* `Writer` — the text written so far and the number of open elements;
* `Writer.write` — writing one more mark.

Main results:

* `Writer.text_write`, `Writer.depth_write` — a mark appends its line and changes the depth, and
  does nothing else.
-/

import JackSyntax.Markup.Escape
import JackSyntax.Token.Basic

set_option relaxedAutoImplicit false
set_option autoImplicit false

namespace JackSyntax

/-- The value of a token inside its element.  Only symbols and string constants can hold markup
characters. -/
def Token.markup : Token → String
  | .symbol character => escape (Token.symbol character).lexeme
  | .stringConstant text => escape (Token.stringConstant text).lexeme
  | token => token.lexeme

/-- One line of nested elements. -/
inductive Mark where
  | opening (tag : String)
  | closing (tag : String)
  /-- An element that holds a text, which is written as it is given. -/
  | leaf (tag value : String)
  | token (token : Token)
  deriving DecidableEq

namespace Mark

/-- The text of a mark without its indentation. -/
def text : Mark → String
  | .opening tag => "<" ++ tag ++ ">"
  | .closing tag => "</" ++ tag ++ ">"
  | .leaf tag value => "<" ++ tag ++ "> " ++ value ++ " </" ++ tag ++ ">"
  | .token t => "<" ++ t.tag ++ "> " ++ t.markup ++ " </" ++ t.tag ++ ">"

/-- The number of tabs before a mark that is written with `depth` elements open.  A closing tag
stands where its opening tag stands. -/
def indentation (depth : Nat) : Mark → Nat
  | .closing _ => depth - 1
  | _ => depth

/-- The number of open elements behind a mark.  A closing tag with no element open leaves none
open. -/
def depthAfter (depth : Nat) : Mark → Nat
  | .opening _ => depth + 1
  | .closing _ => depth - 1
  | _ => depth

/-- The line of a mark that is written with `depth` elements open. -/
def line (depth : Nat) (mark : Mark) : String :=
  String.ofList (List.replicate (mark.indentation depth) '\t') ++ mark.text ++ "\n"

end Mark

/-- The text written so far and the number of elements still open. -/
structure Writer where
  text : String
  depth : Nat
  deriving DecidableEq

namespace Writer

/-- Nothing written yet. -/
def empty : Writer := ⟨"", 0⟩

/-- Writes one mark. -/
def write (w : Writer) (mark : Mark) : Writer :=
  ⟨w.text ++ mark.line w.depth, mark.depthAfter w.depth⟩

@[simp] theorem text_write (w : Writer) (mark : Mark) :
    (w.write mark).text = w.text ++ mark.line w.depth := rfl

@[simp] theorem depth_write (w : Writer) (mark : Mark) :
    (w.write mark).depth = mark.depthAfter w.depth := rfl

/-- Writes marks one after the other. -/
def writeAll (w : Writer) (marks : List Mark) : Writer := marks.foldl write w

@[simp] theorem writeAll_nil (w : Writer) : w.writeAll [] = w := rfl

@[simp] theorem writeAll_cons (w : Writer) (mark : Mark) (marks : List Mark) :
    w.writeAll (mark :: marks) = (w.write mark).writeAll marks := rfl

theorem writeAll_append (w : Writer) (first second : List Mark) :
    w.writeAll (first ++ second) = (w.writeAll first).writeAll second := by
  simp [writeAll, List.foldl_append]

end Writer

end JackSyntax
