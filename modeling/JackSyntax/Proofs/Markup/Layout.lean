/-
**The text of a tree, line by line.**

A writer keeps a text and a depth and adds one mark after the other.  What comes out of it can be
said without a writer: a tree is a list of lines, the lines of its parts between the two tags of its
phrase, and each line is indented by a tab for every phrase around it.

Main definitions:

* `tabs`, `leafLine`, `openingLine`, `closingLine` — the three kinds of lines;
* `Tree.lines`, `Tree.linesAll` — the lines of a tree and of a row of trees;
* `unlines` — lines as a text, each ended by a line feed.

Main results:

* `Tree.render_eq_unlines` — **the text of a tree is its lines**.
-/

import JackSyntax.Proofs.Grammar.Description

set_option relaxedAutoImplicit false
set_option autoImplicit false

namespace JackSyntax

/-- A tab for every level. -/
def tabs (depth : Nat) : String := String.ofList (List.replicate depth '\t')

/-- The line of a token. -/
def leafLine (depth : Nat) (token : Token) : String :=
  tabs depth ++ "<" ++ token.tag ++ "> " ++ token.markup ++ " </" ++ token.tag ++ ">"

/-- The line before the parts of a phrase. -/
def openingLine (depth : Nat) (phrase : Phrase) : String := tabs depth ++ "<" ++ phrase.tag ++ ">"

/-- The line behind the parts of a phrase. -/
def closingLine (depth : Nat) (phrase : Phrase) : String := tabs depth ++ "</" ++ phrase.tag ++ ">"

/-- Lines as a text. -/
def unlines : List String → String
  | [] => ""
  | line :: lines => line ++ "\n" ++ unlines lines

@[simp] theorem unlines_append (first second : List String) :
    unlines (first ++ second) = unlines first ++ unlines second := by
  induction first with
  | nil => simp [unlines]
  | cons line lines ih => simp [unlines, ih, String.append_assoc]

namespace Tree

mutual

/-- The lines of a tree with `depth` phrases around it.  A phrase has its two tags even where it has
no parts. -/
def lines (depth : Nat) : Tree → List String
  | .leaf token => [leafLine depth token]
  | .node phrase parts =>
      openingLine depth phrase :: (linesAll (depth + 1) parts ++ [closingLine depth phrase])

/-- The lines of a row of trees with `depth` phrases around it. -/
def linesAll (depth : Nat) : List Tree → List String
  | [] => []
  | tree :: trees => lines depth tree ++ linesAll depth trees

end

mutual

/-- Writing a tree adds its lines to the text. -/
theorem text_write_tree (w : Writer) :
    (tree : Tree) → (write w tree).text = w.text ++ unlines (lines w.depth tree)
  | .leaf token => by
      simp [write, lines, unlines, leafLine, Mark.line, Mark.indentation, Mark.text, tabs,
        String.append_assoc]
  | .node phrase parts => by
      have inner := text_writeRow (w.write (.opening phrase.tag)) parts
      simp [write, lines, unlines, openingLine, closingLine, inner, Mark.line, Mark.indentation,
        Mark.depthAfter, Mark.text, tabs, String.append_assoc]

theorem text_writeRow (w : Writer) :
    (trees : List Tree) → (writeRow w trees).text = w.text ++ unlines (linesAll w.depth trees)
  | [] => by simp [writeRow, linesAll, unlines]
  | tree :: trees => by
      have later := text_writeRow (write w tree) trees
      simp [writeRow, linesAll, later, text_write_tree w tree, String.append_assoc]

end

/-- The text of a tree is its lines, none of them indented by what is around the tree. -/
theorem render_eq_unlines (tree : Tree) : tree.render = unlines (tree.lines 0) := by
  have written := text_write_tree .empty tree
  simpa [render, Writer.empty] using written

end Tree

end JackSyntax
