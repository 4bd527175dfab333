/-
**Reading the leaves of a text.**

The text of a tree holds a leaf on a line of its own, with tabs before it and its tag on both sides
of its value.  The leaves are read back line by line, with no view of the tree; the tags of the
phrases are passed over.

Main definitions:

* `leaf?` — the tag and the value of the leaf on a line;
* `leaves` — the leaves of a text.

Main results:

* `splitOn_unlines` — a text is cut into the lines it was made of;
* `leaves_unlines` — the leaves of a text are those of its lines;
* `Tree.leaves_lines` — **the leaves on the lines of a tree are its tokens**.
-/

import JackSyntax.Proofs.Markup.Layout
import JackSyntax.Proofs.Markup.Unescape

set_option relaxedAutoImplicit false
set_option autoImplicit false

namespace JackSyntax

/-! ### The reader -/

/-- The tag and the value of the leaf on a line, if the line holds one: any number of tabs, the
opening tag, a blank, the value, a blank and the closing tag. -/
def leaf? (line : List Char) : Option (List Char × List Char) := do
  let inside ← (line.dropWhile (· == '\t')).dropPrefix? ['<']
  let tag := inside.takeWhile (· != '>')
  let behind ← (inside.dropWhile (· != '>')).dropPrefix? ['>', ' ']
  let value ← behind.dropSuffix? (" </".toList ++ tag ++ ['>'])
  return (tag, value)

/-- The leaves of a text, from the first line to the last. -/
def leaves (text : String) : List (List Char × List Char) :=
  (text.toList.splitOn '\n').filterMap leaf?

/-- The leaf of a token. -/
def Token.element (token : Token) : List Char × List Char := (token.tag.toList, token.markup.toList)

/-! ### One line -/

theorem dropWhile_tabs (depth : Nat) (text : List Char) :
    (List.replicate depth '\t' ++ '<' :: text).dropWhile (· == '\t') = '<' :: text := by
  induction depth with
  | zero => rfl
  | succ depth ih => simp [List.replicate_succ]

/-- A tag is cut off in front of its bracket. -/
theorem takeWhile_tag {tag : List Char} (closed : '>' ∉ tag) (rest : List Char) :
    (tag ++ '>' :: rest).takeWhile (· != '>') = tag ∧
      (tag ++ '>' :: rest).dropWhile (· != '>') = '>' :: rest :=
  takeWhile_append_of_stops (fun _ inside => bne_iff_ne.2 fun same => closed (same ▸ inside))
    (stops_cons.2 rfl)

/-- The leaf on a line with an element. -/
theorem leaf?_element (depth : Nat) {tag : List Char} (closed : '>' ∉ tag) (value : List Char) :
    leaf? (List.replicate depth '\t' ++
      '<' :: (tag ++ '>' :: ' ' :: (value ++ (" </".toList ++ tag ++ ['>'])))) =
      some (tag, value) := by
  obtain ⟨taken, dropped⟩ := takeWhile_tag closed (' ' :: (value ++ (" </".toList ++ tag ++ ['>'])))
  have cut : (value ++ (" </".toList ++ tag ++ ['>'])).dropSuffix? (" </".toList ++ tag ++ ['>']) =
      some value := List.dropSuffix?_eq_some_iff.2 ⟨_, rfl, beq_self_eq_true _⟩
  rw [leaf?, dropWhile_tabs]
  simp only [List.dropPrefix?, beq_self_eq_true, if_true, Option.bind_eq_bind, Option.bind_some,
    taken, dropped, cut]
  rfl

/-- No leaf is on a line with a single tag. -/
theorem leaf?_tag (depth : Nat) {tag : List Char} (closed : '>' ∉ tag) :
    leaf? (List.replicate depth '\t' ++ '<' :: (tag ++ ['>'])) = none := by
  obtain ⟨taken, dropped⟩ := takeWhile_tag closed []
  rw [leaf?, dropWhile_tabs]
  simp only [List.dropPrefix?, beq_self_eq_true, if_true, Option.bind_eq_bind, Option.bind_some,
    dropped]
  rfl

theorem isIdentifierPart_of_mem_tokenTag (token : Token) :
    ∀ c ∈ token.tag.toList, isIdentifierPart c = true := by
  have parts : token.tag.toList.all isIdentifierPart = true := by
    cases token <;> simp only [Token.tag] <;> decide
  exact List.all_eq_true.1 parts

theorem isIdentifierPart_of_mem_phraseTag (phrase : Phrase) :
    ∀ c ∈ phrase.tag.toList, isIdentifierPart c = true := by
  have parts : phrase.tag.toList.all isIdentifierPart = true := by cases phrase <;> decide
  exact List.all_eq_true.1 parts

theorem not_mem_of_isIdentifierPart {text : List Char}
    (parts : ∀ c ∈ text, isIdentifierPart c = true) {c : Char}
    (foreign : isIdentifierPart c = false) : c ∉ text := by
  intro inside
  rw [parts c inside] at foreign
  cases foreign

theorem leaf?_leafLine (depth : Nat) (token : Token) :
    leaf? (leafLine depth token).toList = some token.element := by
  have closed := not_mem_of_isIdentifierPart (isIdentifierPart_of_mem_tokenTag token)
    (by decide : isIdentifierPart '>' = false)
  have read := leaf?_element depth closed token.markup.toList
  simpa [leafLine, tabs, Token.element] using read

theorem leaf?_openingLine (depth : Nat) (phrase : Phrase) :
    leaf? (openingLine depth phrase).toList = none := by
  have closed := not_mem_of_isIdentifierPart (isIdentifierPart_of_mem_phraseTag phrase)
    (by decide : isIdentifierPart '>' = false)
  simpa [openingLine, tabs] using leaf?_tag depth closed

theorem leaf?_closingLine (depth : Nat) (phrase : Phrase) :
    leaf? (closingLine depth phrase).toList = none := by
  have closed : '>' ∉ '/' :: phrase.tag.toList := by
    simpa using not_mem_of_isIdentifierPart (isIdentifierPart_of_mem_phraseTag phrase)
      (by decide : isIdentifierPart '>' = false)
  simpa [closingLine, tabs] using leaf?_tag depth closed

/-! ### All lines -/

/-- A text is cut into the lines it was made of, and nothing behind the last line feed. -/
theorem splitOn_unlines {lines : List String} (h : ∀ line ∈ lines, '\n' ∉ line.toList) :
    (unlines lines).toList.splitOn '\n' = lines.map String.toList ++ [[]] := by
  induction lines with
  | nil => rfl
  | cons line lines ih =>
      obtain ⟨here, later⟩ := List.forall_mem_cons.1 h
      have cut := List.splitOn_append_cons_self_of_not_mem here (unlines lines).toList
      rw [ih later] at cut
      simpa [unlines] using cut

/-- The leaves of a text are those of its lines. -/
theorem leaves_unlines {lines : List String} (h : ∀ line ∈ lines, '\n' ∉ line.toList) :
    leaves (unlines lines) = lines.filterMap fun line => leaf? line.toList := by
  -- behind the last line feed stands an empty line without a leaf
  have nothing : [([] : List Char)].filterMap leaf? = [] := rfl
  rw [leaves, splitOn_unlines h, List.filterMap_append, List.filterMap_map, nothing,
    List.append_nil]
  rfl

namespace Tree

mutual

/-- The leaves on the lines of a tree are its tokens. -/
theorem leaves_lines (depth : Nat) : (tree : Tree) →
    (tree.lines depth).filterMap (fun line => leaf? line.toList) = tree.tokens.map Token.element
  | .leaf token => by simp [lines, leaf?_leafLine]
  | .node phrase parts => by
      simp [lines, leaf?_openingLine, leaf?_closingLine, leaves_linesAll (depth + 1) parts]

theorem leaves_linesAll (depth : Nat) : (trees : List Tree) →
    (linesAll depth trees).filterMap (fun line => leaf? line.toList) =
      (tokensAll trees).map Token.element
  | [] => rfl
  | tree :: trees => by
      simp [linesAll, leaves_lines depth tree, leaves_linesAll depth trees]

end

end Tree

end JackSyntax
