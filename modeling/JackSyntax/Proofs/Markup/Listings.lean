/-
**Texts of one element.**

The text of a class and the token listing of a source are made in the same way: there is one
element around trees that are written one after the other.  In a listing these trees are single
tokens.  What is shown here of such a text holds of both.

The leaves of a text can also be looked at as lines.  Without its tabs, the line of a leaf does not
tell how deep the leaf lies, so that two texts can be compared whatever elements are in them.

Main definitions:

* `elementLines` — the lines of an element around trees;
* `leafLines` — the lines of the leaves of a text, without their tabs.

Main results:

* `tokenListing_eq_ok_iff` — a token listing is an element around tokens;
* `exists_isDocument` — **an element around trees is a document**;
* `leaves_elementLines`, `leaves_render` — **the leaves of a text are the tokens of its trees**;
* `leafLines_eq_map_leaves` — the leaves of a text determine their lines;
* `leafLines_elementLines` — the lines of the leaves are the lines of the tokens.
-/

import JackSyntax.Markup.Listing
import JackSyntax.Proofs.Markup.Documents

set_option relaxedAutoImplicit false
set_option autoImplicit false

namespace JackSyntax

open JackSyntax.Tree

/-- The lines of an element around trees. -/
def elementLines (tag : String) (trees : List Tree) : List String :=
  ("<" ++ tag ++ ">") :: (linesAll 1 trees ++ ["</" ++ tag ++ ">"])

/-! ### Trees and listings -/

theorem Tree.lines_node (phrase : Phrase) (parts : List Tree) :
    (Tree.node phrase parts).lines 0 = elementLines phrase.tag parts := by
  simp [lines, elementLines, openingLine, closingLine, tabs]

section

variable (depth : Nat) (tokens : List Token)

theorem linesAll_map_leaf : linesAll depth (tokens.map .leaf) = tokens.map (leafLine depth) := by
  induction tokens with
  | nil => rfl
  | cons token tokens ih => simp [linesAll, lines, ih]

@[simp] theorem tokensAll_map_leaf : tokensAll (tokens.map .leaf) = tokens := by
  induction tokens with
  | nil => rfl
  | cons token tokens ih => simp [ih]

end

/-- Tokens are written like trees of one leaf each. -/
theorem writeAll_map_token (w : Writer) (tokens : List Token) :
    w.writeAll (tokens.map .token) = writeRow w (tokens.map .leaf) := by
  induction tokens generalizing w with
  | nil => rfl
  | cons token tokens ih => exact ih (w.write (.token token))

/-- A token listing is an element around tokens. -/
theorem text_listing (tokens : List Token) :
    (Writer.empty.writeAll (listingMarks tokens)).text =
      unlines (elementLines "tokens" (tokens.map .leaf)) := by
  have inner := text_writeRow (Writer.empty.write (.opening "tokens")) (tokens.map .leaf)
  have depth := depth_writeRow (Writer.empty.write (.opening "tokens")) (tokens.map .leaf)
  rw [listingMarks, Writer.writeAll_cons, Writer.writeAll_append, writeAll_map_token,
    Writer.writeAll_cons, Writer.writeAll_nil, Writer.text_write, inner, depth]
  simp [elementLines, unlines, Writer.empty, Mark.line, Mark.indentation, Mark.depthAfter, Mark.text,
    String.append_assoc]

/-- A source is listed if it has tokens; otherwise its error is that of the listing. -/
theorem tokenListing_eq_map (source : String) :
    tokenListing source = (tokenize source).map fun tokens =>
      unlines (elementLines "tokens" (tokens.map .leaf)) := by
  unfold tokenListing
  cases tokenize source with
  | error error => rfl
  | ok tokens => exact congrArg Except.ok (text_listing tokens)

theorem tokenListing_eq_ok_iff (source listing : String) : tokenListing source = .ok listing ↔
    ∃ tokens, tokenize source = .ok tokens ∧
      listing = unlines (elementLines "tokens" (tokens.map .leaf)) := by
  rw [tokenListing_eq_map]
  cases tokenize source with
  | error error => simp [Except.map]
  | ok tokens => simp [Except.map, eq_comm]

/-! ### Elements around trees -/

section

variable {tag : String} {trees : List Tree}

/-- The lines of an element around trees hold its rows. -/
theorem toList_elementLines : (elementLines tag trees).map String.toList =
    (⟨0, .opening tag.toList⟩ :: (rowsAll 1 trees ++ [⟨0, .closing tag.toList⟩])).map Row.text := by
  simp [elementLines, toList_linesAll, Row.text, Line.text]

/-- **An element around trees is a document**, whatever the tokens in it hold. -/
theorem exists_isDocument (word : IsWord tag.toList)
    (lexical : ∀ token ∈ tokensAll trees, token.IsLexical) :
    ∃ rows, IsDocument tag (unlines (elementLines tag trees)) rows :=
  ⟨_, isDocument_unlines word (elements_rowsAll 1 trees fun token inside =>
    (lexical token inside).isPrintable) toList_elementLines⟩

/-- No line of an element around trees holds a line feed. -/
theorem newline_not_mem_elementLines (word : IsWord tag.toList)
    (lexical : ∀ token ∈ tokensAll trees, token.IsLexical) :
    ∀ line ∈ elementLines tag trees, '\n' ∉ line.toList := by
  have inner := elements_rowsAll 1 trees fun token inside => (lexical token inside).isPrintable
  have whole := Elements.element word inner (.nil 0)
  exact newline_not_mem_of_rows toList_elementLines fun row inside =>
    (whole.wellFormed row inside).1

/-- The leaves of an element around trees are the tokens of the trees. -/
theorem leaves_elementLines (word : IsWord tag.toList)
    (lexical : ∀ token ∈ tokensAll trees, token.IsLexical) :
    leaves (unlines (elementLines tag trees)) = (tokensAll trees).map Token.element := by
  have closed := not_mem_of_isIdentifierPart word.2 (by decide : isIdentifierPart '>' = false)
  have closed' : '>' ∉ '/' :: tag.toList := by simpa using closed
  have opening : leaf? ('<' :: (tag.toList ++ ['>'])) = none := leaf?_tag 0 closed
  have closing : leaf? ('<' :: '/' :: (tag.toList ++ ['>'])) = none := leaf?_tag 0 closed'
  rw [leaves_unlines (newline_not_mem_elementLines word lexical)]
  simp [elementLines, opening, closing, leaves_linesAll 1 trees]

end

/-- The leaves of the text of a tree are its tokens, in their order. -/
theorem leaves_render {tree : Tree} (lexical : ∀ token ∈ tree.tokens, token.IsLexical) :
    leaves tree.render = tree.tokens.map Token.element := by
  have whole := tree.elements_rows 0 fun token inside => (lexical token inside).isPrintable
  have noFeed := newline_not_mem_of_rows (tree.toList_lines 0) fun row inside =>
    (whole.wellFormed row inside).1
  rw [render_eq_unlines, leaves_unlines noFeed, tree.leaves_lines]

/-! ### The lines of leaves -/

/-- The lines of the leaves of a text, without their tabs. -/
def leafLines (text : String) : List (List Char) :=
  ((text.toList.splitOn '\n').filter fun line => (leaf? line).isSome).map
    (List.dropWhile (· == '\t'))

/-- The leaf on a line is all that stands behind the tabs. -/
theorem dropWhile_of_leaf? {line tag value : List Char} (h : leaf? line = some (tag, value)) :
    line.dropWhile (· == '\t') = (Line.leaf tag value).text := by
  simp only [leaf?, Option.bind_eq_bind, Option.bind_eq_some_iff, List.dropPrefix?_eq_some_iff,
    List.dropSuffix?_eq_some_iff, Option.pure_def, Option.some.injEq, Prod.mk.injEq,
    beq_iff_eq] at h
  obtain ⟨inside, ⟨_, same, rfl⟩, behind, ⟨_, same', rfl⟩, _, ⟨_, rfl, rfl⟩, rfl, rfl⟩ := h
  have cut := List.takeWhile_append_dropWhile (p := (· != '>')) (l := inside)
  rw [same'] at cut
  rw [same, Line.text]
  conv_lhs => rw [← cut]
  simp

/-- The leaves of a text determine their lines. -/
theorem leafLines_eq_map_leaves (text : String) :
    leafLines text = (leaves text).map fun leaf => (Line.leaf leaf.1 leaf.2).text := by
  unfold leafLines leaves
  induction text.toList.splitOn '\n' with
  | nil => rfl
  | cons line lines ih =>
      cases h : leaf? line with
      | none => simp [h, ih]
      | some leaf => simp [h, ih, dropWhile_of_leaf? h]

/-- The leaf lines of an element around trees are the lines of the tokens of the trees. -/
theorem leafLines_elementLines {tag : String} {trees : List Tree} (word : IsWord tag.toList)
    (lexical : ∀ token ∈ tokensAll trees, token.IsLexical) :
    leafLines (unlines (elementLines tag trees)) =
      (tokensAll trees).map fun token => (leafLine 0 token).toList := by
  rw [leafLines_eq_map_leaves, leaves_elementLines word lexical, List.map_map]
  refine List.map_congr_left fun token _ => ?_
  simp [Token.element, Line.text, leafLine, tabs]

end JackSyntax
