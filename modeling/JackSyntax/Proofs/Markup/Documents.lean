/-
**Documents of nested elements.**

What a text of nested elements has to look like can be said from the text alone.  Each of its lines
holds tabs and then an opening tag, a closing tag or a leaf.  It is read line by line with a stack
of open elements: an opening tag is put on the stack, a closing tag takes its own tag off it, and
the tabs tell how many elements are around a line.  Only at the end is the stack empty again.

The value of a leaf is escaped, so no line can be read in two ways, whatever the values are made of.

Main definitions:

* `Line`, `Row` — what stands on a line, and its indentation;
* `ReadsOn` — reading rows with a stack;
* `IsDocument` — the rows of a text, which are one element;
* `Elements` — complete elements, one after the other.

Main results:

* `Row.text_inj` — a line can be read in one way only;
* `Elements.readsOn_append` — complete elements leave the stack as it was;
* `isDocument_unlines` — **the lines of an element are a document**;
* `Tree.elements_rows` — the lines of a tree are an element.
-/

import JackSyntax.Proofs.Markup.Leaves

set_option relaxedAutoImplicit false
set_option autoImplicit false

namespace JackSyntax

/-! ### Lines -/

/-- What stands on a line behind the tabs. -/
inductive Line where
  | opening (tag : List Char)
  | closing (tag : List Char)
  /-- An element with its value on one line. -/
  | leaf (tag value : List Char)

/-- A line: its tabs, and what stands behind them. -/
structure Row where
  tabs : Nat
  line : Line

namespace Line

/-- The text of a line behind the tabs. -/
def text : Line → List Char
  | .opening tag => '<' :: (tag ++ ['>'])
  | .closing tag => '<' :: '/' :: (tag ++ ['>'])
  | .leaf tag value => '<' :: (tag ++ '>' :: ' ' :: (value ++ (" </".toList ++ tag ++ ['>'])))

/-- The tags of a line are words, and its value is escaped and on one line. -/
def IsWellFormed : Line → Prop
  | .opening tag => IsWord tag
  | .closing tag => IsWord tag
  | .leaf tag value => IsWord tag ∧ IsEscaped value ∧ '\n' ∉ value

/-- What stands between the first brackets of a line. -/
def label : Line → List Char
  | .opening tag => tag
  | .closing tag => '/' :: tag
  | .leaf tag _ => tag

/-- What stands behind the first brackets of a line. -/
def behind : Line → List Char
  | .leaf tag value => ' ' :: (value ++ (" </".toList ++ tag ++ ['>']))
  | _ => []

theorem text_eq (line : Line) : line.text = '<' :: (line.label ++ '>' :: line.behind) := by
  cases line <;> simp [text, label, behind]

theorem not_mem_label {line : Line} (h : line.IsWellFormed) : '>' ∉ line.label := by
  have foreign : isIdentifierPart '>' = false := by decide
  cases line with
  | opening tag => exact not_mem_of_isIdentifierPart h.2 foreign
  | closing tag =>
      rw [label, List.mem_cons, not_or]
      exact ⟨by decide, not_mem_of_isIdentifierPart h.2 foreign⟩
  | leaf tag value => exact not_mem_of_isIdentifierPart h.1.2 foreign

/-- No word is what stands between the brackets of a closing tag. -/
theorem ne_slash_cons {word tag : List Char} (h : IsWord word) : word ≠ '/' :: tag := by
  rintro rfl
  exact absurd (h.2 '/' List.mem_cons_self) (by decide)

/-- The brackets of a line say what it is. -/
theorem eq_of_label_eq {line other : Line} (h : line.IsWellFormed) (h' : other.IsWellFormed)
    (label : line.label = other.label) (behind : line.behind = other.behind) : line = other := by
  cases line with
  | opening tag =>
      cases other with
      | opening tag' => exact congrArg Line.opening label
      | closing tag' => exact absurd label (ne_slash_cons h)
      | leaf tag' value' => cases behind
  | closing tag =>
      cases other with
      | opening tag' => exact absurd label.symm (ne_slash_cons h')
      | closing tag' => exact congrArg Line.closing (List.cons.inj label).2
      | leaf tag' value' => cases behind
  | leaf tag value =>
      cases other with
      | opening tag' => cases behind
      | closing tag' => cases behind
      | leaf tag' value' =>
          obtain rfl : tag = tag' := label
          exact congrArg (Line.leaf tag) (List.append_cancel_right (List.cons.inj behind).2)

end Line

namespace Row

/-- The text of a line. -/
def text (row : Row) : List Char := List.replicate row.tabs '\t' ++ row.line.text

/-- A line can be read in one way only. -/
theorem text_inj {row other : Row} (h : row.line.IsWellFormed) (h' : other.line.IsWellFormed)
    (same : row.text = other.text) : row = other := by
  obtain ⟨tabs, line⟩ := row
  obtain ⟨tabs', line'⟩ := other
  simp only [text] at same
  rw [line.text_eq, line'.text_eq] at same
  -- the tabs end in front of the first bracket
  have inside := congrArg (List.dropWhile (· == '\t')) same
  rw [dropWhile_tabs, dropWhile_tabs] at inside
  obtain rfl : tabs = tabs' := by
    have lengths := congrArg List.length same
    have lengths' := congrArg List.length inside
    simp only [List.length_append, List.length_replicate] at lengths
    omega
  -- and the label in front of the next one
  obtain ⟨taken, dropped⟩ := takeWhile_tag (Line.not_mem_label h) line.behind
  obtain ⟨taken', dropped'⟩ := takeWhile_tag (Line.not_mem_label h') line'.behind
  rw [(List.cons.inj inside).2] at taken dropped
  have label : line.label = line'.label := taken.symm.trans taken'
  have behind : line.behind = line'.behind := (List.cons.inj (dropped.symm.trans dropped')).2
  exact congrArg (Row.mk tabs) (Line.eq_of_label_eq h h' label behind)

theorem newline_not_mem_text {row : Row} (h : row.line.IsWellFormed) : '\n' ∉ row.text := by
  have foreign : isIdentifierPart '\n' = false := by decide
  obtain ⟨tabs, line⟩ := row
  cases line with
  | opening tag =>
      have word := not_mem_of_isIdentifierPart h.2 foreign
      simp [text, Line.text, List.mem_replicate, word]
  | closing tag =>
      have word := not_mem_of_isIdentifierPart h.2 foreign
      simp [text, Line.text, List.mem_replicate, word]
  | leaf tag value =>
      have word := not_mem_of_isIdentifierPart h.1.2 foreign
      simp [text, Line.text, List.mem_replicate, word, h.2.2]

end Row

/-- No line with a well-formed row on it holds a line feed. -/
theorem newline_not_mem_of_rows {lines : List String} {rows : List Row}
    (same : lines.map String.toList = rows.map Row.text)
    (formed : ∀ row ∈ rows, row.line.IsWellFormed) : ∀ line ∈ lines, '\n' ∉ line.toList := by
  intro line inside
  have listed : line.toList ∈ rows.map Row.text := same ▸ List.mem_map_of_mem inside
  obtain ⟨row, inside', text⟩ := List.mem_map.1 listed
  rw [← text]
  exact Row.newline_not_mem_text (formed row inside')

/-! ### Reading with a stack -/

/-- `ReadsOn around rows`: the rows are read to the end when the elements with the tags of `around`
are open, innermost first.  A line has one tab for each element around it, a closing tag is that of
the innermost open element, and nothing is open behind the last line, but something behind every
other line. -/
def ReadsOn : List (List Char) → List Row → Prop
  | around, [] => around = []
  | around, ⟨tabs, .opening tag⟩ :: rows => tabs = around.length ∧ ReadsOn (tag :: around) rows
  | around, ⟨tabs, .leaf _ _⟩ :: rows => tabs = around.length ∧ around ≠ [] ∧ ReadsOn around rows
  | [], ⟨_, .closing _⟩ :: _ => False
  | inner :: around, ⟨tabs, .closing tag⟩ :: rows =>
      tag = inner ∧ tabs = around.length ∧ (around = [] → rows = []) ∧ ReadsOn around rows

/-- The rows of a text that is one element with the given tag. -/
structure IsDocument (root : String) (text : String) (rows : List Row) : Prop where
  /-- The text is cut into the rows at its line feeds; behind the last one there is nothing. -/
  lines : text.toList.splitOn '\n' = rows.map Row.text ++ [[]]
  /-- On every line stands an opening tag, a closing tag or a leaf. -/
  wellFormed : ∀ row ∈ rows, row.line.IsWellFormed
  /-- No line can be read in another way. -/
  unambiguous : ∀ row ∈ rows, ∀ other : Row, other.line.IsWellFormed → other.text = row.text →
    other = row
  /-- Read with a stack, all elements are closed in order, and all lines indented accordingly. -/
  nested : ReadsOn [] rows
  /-- Only the two tags of the root are not indented. -/
  root : rows.filter (fun row => row.tabs == 0) =
    [⟨0, .opening root.toList⟩, ⟨0, .closing root.toList⟩]

/-! ### Complete elements -/

/-- The rows are complete elements, one after the other, with `depth` elements around them. -/
inductive Elements : Nat → List Row → Prop
  | nil (depth : Nat) : Elements depth []
  | leaf {depth : Nat} {tag value : List Char} {rows : List Row} :
      (Line.leaf tag value).IsWellFormed → Elements depth rows →
      Elements depth (⟨depth, .leaf tag value⟩ :: rows)
  | element {depth : Nat} {tag : List Char} {parts rows : List Row} :
      IsWord tag → Elements (depth + 1) parts → Elements depth rows →
      Elements depth (⟨depth, .opening tag⟩ :: (parts ++ ⟨depth, .closing tag⟩ :: rows))

namespace Elements

variable {depth : Nat} {rows : List Row}

theorem append {others : List Row} (h : Elements depth rows) (h' : Elements depth others) :
    Elements depth (rows ++ others) := by
  induction h with
  | nil => exact h'
  | leaf formed _ ih => exact .leaf formed (ih h')
  | element word inner _ _ ih =>
      rw [List.cons_append, List.append_assoc, List.cons_append]
      exact .element word inner (ih h')

/-- Every line of complete elements is well-formed and has a tab for each element around all of
them. -/
theorem wellFormed (h : Elements depth rows) :
    ∀ row ∈ rows, row.line.IsWellFormed ∧ depth ≤ row.tabs := by
  induction h with
  | nil => simp
  | leaf formed _ ih => exact List.forall_mem_cons.2 ⟨⟨formed, Nat.le_refl _⟩, ih⟩
  | element word _ _ ih₁ ih₂ =>
      refine List.forall_mem_cons.2 ⟨⟨word, Nat.le_refl _⟩, List.forall_mem_append.2 ⟨?_, ?_⟩⟩
      · intro row inside
        obtain ⟨formed, deep⟩ := ih₁ row inside
        exact ⟨formed, Nat.le_of_succ_le deep⟩
      · exact List.forall_mem_cons.2 ⟨⟨word, Nat.le_refl _⟩, ih₂⟩

/-- Complete elements inside another one leave the stack as it was. -/
theorem readsOn_append (h : Elements depth rows) {around : List (List Char)}
    (inside : around ≠ []) (length : depth = around.length) (rest : List Row) :
    ReadsOn around (rows ++ rest) ↔ ReadsOn around rest := by
  induction h generalizing around rest with
  | nil => rfl
  | leaf _ _ ih => simp [ReadsOn, length, inside, ih inside length]
  | @element depth tag parts rows _ _ _ ih₁ ih₂ =>
      obtain rfl := length
      have inner := ih₁ (List.cons_ne_nil tag around) rfl
        (⟨around.length, .closing tag⟩ :: (rows ++ rest))
      simp [ReadsOn, inside, inner, ih₂ inside rfl]

end Elements

/-- The lines of an element are a document. -/
theorem isDocument_unlines {root : String} (word : IsWord root.toList) {parts : List Row}
    (inner : Elements 1 parts) {lines : List String}
    (same : lines.map String.toList =
      (⟨0, .opening root.toList⟩ :: (parts ++ [⟨0, .closing root.toList⟩])).map Row.text) :
    IsDocument root (unlines lines)
      (⟨0, .opening root.toList⟩ :: (parts ++ [⟨0, .closing root.toList⟩])) := by
  have whole : Elements 0 (⟨0, .opening root.toList⟩ :: (parts ++ [⟨0, .closing root.toList⟩])) :=
    .element word inner (.nil 0)
  have formed := fun row inside => (whole.wellFormed row inside).1
  refine ⟨?lines, formed, ?unambiguous, ?nested, ?root⟩
  case lines =>
    rw [← same]
    exact splitOn_unlines (newline_not_mem_of_rows same formed)
  case unambiguous =>
    intro row inside other formed' text
    exact Row.text_inj formed' (formed row inside) text
  case nested =>
    have behind := inner.readsOn_append (List.cons_ne_nil root.toList []) rfl
      [⟨0, .closing root.toList⟩]
    simp [ReadsOn, behind]
  case root =>
    have indented : parts.filter (fun row => row.tabs == 0) = [] := by
      rw [List.filter_eq_nil_iff]
      intro row inside
      have deep := (inner.wellFormed row inside).2
      simp only [beq_iff_eq]
      omega
    simp [indented]

/-! ### Trees -/

theorem isWord_tokenTag (token : Token) : IsWord token.tag.toList := by
  have start : token.tag.toList.head?.any isIdentifierStart = true := by
    cases token <;> simp only [Token.tag] <;> decide
  exact ⟨(Option.any_eq_true ..).1 start, isIdentifierPart_of_mem_tokenTag token⟩

theorem isWord_phraseTag (phrase : Phrase) : IsWord phrase.tag.toList := by
  have start : phrase.tag.toList.head?.any isIdentifierStart = true := by cases phrase <;> decide
  exact ⟨(Option.any_eq_true ..).1 start, isIdentifierPart_of_mem_phraseTag phrase⟩

namespace Tree

mutual

/-- The rows of a tree with `depth` elements around it. -/
def rows (depth : Nat) : Tree → List Row
  | .leaf token => [⟨depth, .leaf token.tag.toList token.markup.toList⟩]
  | .node phrase parts =>
      ⟨depth, .opening phrase.tag.toList⟩ ::
        (rowsAll (depth + 1) parts ++ [⟨depth, .closing phrase.tag.toList⟩])

/-- The rows of a row of trees with `depth` elements around it. -/
def rowsAll (depth : Nat) : List Tree → List Row
  | [] => []
  | tree :: trees => rows depth tree ++ rowsAll depth trees

end

mutual

/-- The lines of a tree hold its rows. -/
theorem toList_lines (depth : Nat) : (tree : Tree) →
    (tree.lines depth).map String.toList = (tree.rows depth).map Row.text
  | .leaf token => by simp [lines, rows, Row.text, Line.text, leafLine, tabs]
  | .node phrase parts => by
      simp [lines, rows, Row.text, Line.text, openingLine, closingLine, tabs,
        toList_linesAll (depth + 1) parts]

theorem toList_linesAll (depth : Nat) : (trees : List Tree) →
    (linesAll depth trees).map String.toList = (rowsAll depth trees).map Row.text
  | [] => rfl
  | tree :: trees => by
      simp [linesAll, rowsAll, toList_lines depth tree, toList_linesAll depth trees]

end

mutual

/-- The lines of a tree are an element, whatever its tokens hold. -/
theorem elements_rows (depth : Nat) : (tree : Tree) →
    (∀ token ∈ tree.tokens, token.IsPrintable) → Elements depth (tree.rows depth)
  | .leaf token => by
      intro printable
      exact .leaf ⟨isWord_tokenTag token, printable token (by simp)⟩ (.nil depth)
  | .node phrase parts => by
      intro printable
      rw [tokens_node] at printable
      exact .element (isWord_phraseTag phrase) (elements_rowsAll (depth + 1) parts printable)
        (.nil depth)

theorem elements_rowsAll (depth : Nat) : (trees : List Tree) →
    (∀ token ∈ tokensAll trees, token.IsPrintable) → Elements depth (rowsAll depth trees)
  | [] => fun _ => .nil depth
  | tree :: trees => by
      intro printable
      rw [tokensAll_cons, List.forall_mem_append] at printable
      exact (elements_rows depth tree printable.1).append
        (elements_rowsAll depth trees printable.2)

end

end Tree

end JackSyntax
