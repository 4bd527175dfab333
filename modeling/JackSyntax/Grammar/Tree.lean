/-
**Syntax trees.**

A tree holds every token of its source as a leaf, in order; its inner nodes are the phrases of
the grammar that have a name.

Main definitions:

* `Phrase` — the named phrases, `Phrase.tag` — their names in the output;
* `Tree` — a token, or a phrase with its parts;
* `Tree.tokens` — the leaves of a tree, from left to right;
* `Tree.write` — writing a tree as nested elements, `Tree.render` — its text.

Main results:

* `Tree.depth_write` — writing a tree leaves as many elements open as it found.
-/

import JackSyntax.Markup.Writer

set_option relaxedAutoImplicit false
set_option autoImplicit false

namespace JackSyntax

/-- The phrases of the grammar that have a node of their own. -/
inductive Phrase where
  | classDec | classVarDec | subroutineDec | parameterList | subroutineBody | varDec
  | statements | letStatement | ifStatement | whileStatement | doStatement | returnStatement
  | expression | term | expressionList
  deriving DecidableEq

/-- The tag of a phrase. -/
def Phrase.tag : Phrase → String
  | .classDec => "class"
  | .classVarDec => "classVarDec"
  | .subroutineDec => "subroutineDec"
  | .parameterList => "parameterList"
  | .subroutineBody => "subroutineBody"
  | .varDec => "varDec"
  | .statements => "statements"
  | .letStatement => "letStatement"
  | .ifStatement => "ifStatement"
  | .whileStatement => "whileStatement"
  | .doStatement => "doStatement"
  | .returnStatement => "returnStatement"
  | .expression => "expression"
  | .term => "term"
  | .expressionList => "expressionList"

/-- A syntax tree. -/
inductive Tree where
  | leaf (token : Token)
  | node (phrase : Phrase) (parts : List Tree)

namespace Tree

mutual

/-- The tokens of a tree, from left to right. -/
def tokens : Tree → List Token
  | .leaf token => [token]
  | .node _ parts => tokensAll parts

/-- The tokens of a row of trees, from left to right. -/
def tokensAll : List Tree → List Token
  | [] => []
  | tree :: trees => tokens tree ++ tokensAll trees

end

mutual

/-- Writes a tree.  A phrase is written as its opening tag, its parts and its closing tag, even
where it has no parts. -/
def write (w : Writer) : Tree → Writer
  | .leaf token => w.write (.token token)
  | .node phrase parts =>
      (writeRow (w.write (.opening phrase.tag)) parts).write (.closing phrase.tag)

/-- Writes a row of trees one after the other. -/
def writeRow (w : Writer) : List Tree → Writer
  | [] => w
  | tree :: trees => writeRow (write w tree) trees

end

/-- The text of a tree. -/
def render (tree : Tree) : String := (write .empty tree).text

mutual

/-- Writing a tree leaves as many elements open as it found. -/
@[simp] theorem depth_write (w : Writer) : (tree : Tree) → (write w tree).depth = w.depth
  | .leaf token => by simp [write, Mark.depthAfter]
  | .node phrase parts => by
      simp [write, Mark.depthAfter, depth_writeRow (w.write (.opening phrase.tag)) parts]

@[simp] theorem depth_writeRow (w : Writer) :
    (trees : List Tree) → (writeRow w trees).depth = w.depth
  | [] => by simp [writeRow]
  | tree :: trees => by
      simp [writeRow, depth_writeRow (write w tree) trees, depth_write w tree]

end

end Tree

end JackSyntax
