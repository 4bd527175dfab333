/-
**How far a line is indented.**

A writer counts the elements that are open, and does not count below zero: a closing tag with no
element open is written, and nothing else comes of it.  So the count is not the number of opening
tags less that of closing tags.  It is the height of this balance above the lowest value that it has
had so far, since every closing tag that was one too many is a new lowest value.  From this, the
whole text is given line by line, without a writer.

Marks that are the traversal of a forest keep the balance above its value at their beginning.  They
are indented by the depth of the forest, and by what was open before them; closing tags that came
before and were too many leave no trace.

Main definitions:

* `Mark.balance`, `Mark.lowest`, `Mark.height` — opening tags less closing tags, the lowest such
  value so far, and the height above it;
* `Mark.lineAt` — the line of a mark at its place in a sequence of marks;
* `Element` — an element with its parts, `Element.traversal` — its marks, and `Element.lines` — its
  lines;
* `IsIndented` — how a sequence of marks is written.

Main results:

* `Mark.height_succ` — one more mark changes the height as it changes the depth;
* `depth_writeAll_take` — **the depth of a writer is the height of the balance**;
* `text_writeAll_take` — at any time the text is the lines so far;
* `Element.writeAll_traversalAll` — a forest is indented by its depth;
* `indentation_is_height_above_lowest` — the two together.
-/

import Mathlib.Data.Finset.Max
import JackSyntax.Proofs.Markup.Layout

set_option relaxedAutoImplicit false
set_option autoImplicit false

namespace JackSyntax

namespace Mark

/-! ### The balance of opening and closing tags -/

/-- Whether a mark is an opening tag. -/
def isOpening : Mark → Bool
  | .opening _ => true
  | _ => false

/-- Whether a mark is a closing tag. -/
def isClosing : Mark → Bool
  | .closing _ => true
  | _ => false

/-- The number of opening tags among the first `j` marks, less that of closing tags. -/
def balance (marks : List Mark) (j : ℕ) : ℤ :=
  (marks.take j).countP isOpening - (marks.take j).countP isClosing

/-- The lowest balance among the first `j` marks. -/
def lowest (marks : List Mark) (j : ℕ) : ℤ :=
  (Finset.range (j + 1)).inf' Finset.nonempty_range_add_one (balance marks)

/-- The height of the balance above the lowest one so far. -/
def height (marks : List Mark) (j : ℕ) : ℤ := balance marks j - lowest marks j

/-- What a mark adds to the balance. -/
def gain : Mark → ℤ
  | .opening _ => 1
  | .closing _ => -1
  | _ => 0

variable (marks : List Mark) {j : ℕ}

theorem balance_succ (h : j < marks.length) :
    balance marks (j + 1) = balance marks j + marks[j].gain := by
  rw [balance, balance, List.take_succ_eq_append_getElem h, List.countP_append, List.countP_append]
  cases marks[j] <;> simp [isOpening, isClosing, gain] <;> omega

theorem lowest_le (j : ℕ) : lowest marks j ≤ balance marks j :=
  Finset.inf'_le _ (Finset.self_mem_range_succ j)

theorem lowest_succ (j : ℕ) :
    lowest marks (j + 1) = min (lowest marks j) (balance marks (j + 1)) := by
  rw [lowest, Finset.inf'_congr _ (Finset.range_add_one (n := j + 1)) fun _ _ => rfl,
    Finset.inf'_insert, min_comm]
  rfl

theorem height_nonneg (j : ℕ) : 0 ≤ height marks j := Int.sub_nonneg_of_le (lowest_le marks j)

theorem height_zero : height marks 0 = 0 := by
  simp [height, lowest]

/-- One more mark moves the height with the balance, but not below zero. -/
theorem height_succ (h : j < marks.length) :
    height marks (j + 1) = max (height marks j + marks[j].gain) 0 := by
  have least := lowest_succ marks j
  have moved := balance_succ marks h
  unfold height
  omega

/-! ### One mark -/

/-- A mark moves the depth as it moves the balance, but not below zero. -/
theorem depthAfter_eq (mark : Mark) (depth : ℕ) :
    (mark.depthAfter depth : ℤ) = max (depth + mark.gain) 0 := by
  cases mark <;> simp only [depthAfter, gain] <;> omega

/-- A closing tag is indented as deep as it leaves the writer, any other mark as deep as it finds
it. -/
theorem indentation_eq (mark : Mark) (depth : ℕ) :
    mark.indentation depth = if mark.isClosing then mark.depthAfter depth else depth := by
  cases mark <;> rfl

/-- The height at which a mark is written that has `j` marks before it. -/
def heightAt (marks : List Mark) (j : ℕ) (mark : Mark) : ℤ :=
  if mark.isClosing then height marks (j + 1) else height marks j

/-- A mark behind as many tabs as its depth. -/
def indented (depth : ℕ) (mark : Mark) : String := tabs depth ++ mark.text

/-- The line of a mark that has `j` marks before it. -/
def lineAt (marks : List Mark) (j : ℕ) (mark : Mark) : String :=
  mark.indented (heightAt marks j mark).toNat

theorem line_eq (mark : Mark) (depth : ℕ) :
    mark.line depth = mark.indented (mark.indentation depth) ++ "\n" := rfl

end Mark

/-! ### A sequence of marks -/

section

variable (marks : List Mark) {j : ℕ}

theorem writeAll_take_succ (h : j < marks.length) :
    Writer.empty.writeAll (marks.take (j + 1)) =
      (Writer.empty.writeAll (marks.take j)).write marks[j] := by
  rw [List.take_succ_eq_append_getElem h, Writer.writeAll_append, Writer.writeAll_cons,
    Writer.writeAll_nil]

/-- **The depth of a writer is the height of the balance** above the lowest one so far. -/
theorem depth_writeAll_take (h : j ≤ marks.length) :
    ((Writer.empty.writeAll (marks.take j)).depth : ℤ) = Mark.height marks j := by
  induction j with
  | zero => exact (Mark.height_zero marks).symm
  | succ j ih =>
      rw [writeAll_take_succ marks h, Writer.depth_write, Mark.depthAfter_eq,
        ih (Nat.le_of_lt h), Mark.height_succ marks h]

/-- A mark is indented by the height at which it is written. -/
theorem indentation_writeAll_take (h : j < marks.length) :
    (marks[j].indentation (Writer.empty.writeAll (marks.take j)).depth : ℤ) =
      Mark.heightAt marks j marks[j] := by
  have before := depth_writeAll_take marks (Nat.le_of_lt h)
  have behind := depth_writeAll_take marks h
  rw [writeAll_take_succ marks h, Writer.depth_write] at behind
  rw [Mark.indentation_eq, Mark.heightAt]
  split
  · exact behind
  · exact before

/-- At any time the text is the lines of the marks so far. -/
theorem text_writeAll_take (h : j ≤ marks.length) :
    (Writer.empty.writeAll (marks.take j)).text =
      unlines ((marks.mapIdx (Mark.lineAt marks)).take j) := by
  induction j with
  | zero => rfl
  | succ j ih =>
      have more : j < (marks.mapIdx (Mark.lineAt marks)).length := by
        rwa [List.length_mapIdx]
      have line : marks[j].line (Writer.empty.writeAll (marks.take j)).depth =
          Mark.lineAt marks j marks[j] ++ "\n" := by
        rw [Mark.line_eq, Mark.lineAt, ← indentation_writeAll_take marks h, Int.toNat_natCast]
      rw [writeAll_take_succ marks h, Writer.text_write, ih (Nat.le_of_lt h), line,
        List.take_succ_eq_append_getElem more, unlines_append, List.getElem_mapIdx]
      simp [unlines]

end

/-! ### Forests -/

/-- An element with its parts.  Its two tags need not be the same. -/
inductive Element where
  | leaf (tag value : String)
  | token (token : Token)
  | around (first last : String) (parts : List Element)

namespace Element

mutual

/-- The traversal of an element. -/
def traversal : Element → List Mark
  | .leaf tag value => [.leaf tag value]
  | .token t => [.token t]
  | .around first last parts => .opening first :: (traversalAll parts ++ [.closing last])

/-- The traversal of a forest. -/
def traversalAll : List Element → List Mark
  | [] => []
  | element :: forest => traversal element ++ traversalAll forest

end

mutual

/-- The lines of an element with `depth` elements around it. -/
def lines (depth : ℕ) : Element → List String
  | .leaf tag value => [(Mark.leaf tag value).indented depth]
  | .token t => [(Mark.token t).indented depth]
  | .around first last parts =>
      (Mark.opening first).indented depth ::
        (linesAll (depth + 1) parts ++ [(Mark.closing last).indented depth])

/-- The lines of a forest with `depth` elements around it. -/
def linesAll (depth : ℕ) : List Element → List String
  | [] => []
  | element :: forest => lines depth element ++ linesAll depth forest

end

mutual

/-- An element adds its lines, and leaves as many elements open as it found. -/
theorem writeAll_traversal (w : Writer) : (element : Element) →
    w.writeAll element.traversal = ⟨w.text ++ unlines (element.lines w.depth), w.depth⟩
  | .leaf tag value => by
      simp [traversal, lines, unlines, Writer.write, Mark.line_eq, Mark.indentation,
        Mark.depthAfter]
  | .token t => by
      simp [traversal, lines, unlines, Writer.write, Mark.line_eq, Mark.indentation,
        Mark.depthAfter]
  | .around first last parts => by
      rw [traversal, Writer.writeAll_cons, Writer.writeAll_append, writeAll_traversalAll _ parts]
      simp [lines, unlines, Writer.write, Mark.line_eq, Mark.indentation, Mark.depthAfter,
        String.append_assoc]

/-- A forest adds its lines, and leaves as many elements open as it found. -/
theorem writeAll_traversalAll (w : Writer) : (forest : List Element) →
    w.writeAll (traversalAll forest) = ⟨w.text ++ unlines (linesAll w.depth forest), w.depth⟩
  | [] => by simp [traversalAll, linesAll, unlines]
  | element :: forest => by
      rw [traversalAll, Writer.writeAll_append, writeAll_traversal w element,
        writeAll_traversalAll _ forest]
      simp [linesAll, String.append_assoc]

end

end Element

/-! ### All sequences -/

/-- How a sequence of marks is written. -/
structure IsIndented (marks : List Mark) : Prop where
  /-- The text is one line for each mark, indented by the height at which the mark is written. -/
  text : (Writer.empty.writeAll marks).text = unlines (marks.mapIdx (Mark.lineAt marks))
  /-- No height is negative, so that there is a tab for every level. -/
  nonneg : ∀ j mark, 0 ≤ Mark.heightAt marks j mark
  /-- After some of the marks the text is the first of these lines, and later marks leave them as
  they are. -/
  kept : ∀ j ≤ marks.length, (Writer.empty.writeAll (marks.take j)).text =
    unlines ((marks.mapIdx (Mark.lineAt marks)).take j)
  /-- After some of the marks as many elements are open as the balance is above its lowest value. -/
  depth : ∀ j ≤ marks.length,
    ((Writer.empty.writeAll (marks.take j)).depth : ℤ) = Mark.height marks j

theorem isIndented (marks : List Mark) : IsIndented marks where
  text := by
    have whole := text_writeAll_take marks le_rfl
    rwa [List.take_length, List.take_of_length_le (by simp)] at whole
  nonneg j mark := by
    unfold Mark.heightAt
    split <;> exact Mark.height_nonneg _ _
  kept j := text_writeAll_take marks
  depth j := depth_writeAll_take marks

/-- **Lines are indented by the height of the balance above its lowest value.**  So a forest is
indented by its own depth and leaves nothing open; and it is written in the same way behind any
marks that leave nothing open, even if closing tags among them were too many. -/
theorem indentation_is_height_above_lowest :
    (∀ marks, IsIndented marks) ∧
      (∀ forest, Writer.empty.writeAll (Element.traversalAll forest) =
        ⟨unlines (Element.linesAll 0 forest), 0⟩) ∧
      ∀ before forest, (Writer.empty.writeAll before).depth = 0 →
        Writer.empty.writeAll (before ++ Element.traversalAll forest) =
          ⟨(Writer.empty.writeAll before).text ++
            (Writer.empty.writeAll (Element.traversalAll forest)).text, 0⟩ := by
  have alone (forest : List Element) : Writer.empty.writeAll (Element.traversalAll forest) =
      ⟨unlines (Element.linesAll 0 forest), 0⟩ := by
    rw [Element.writeAll_traversalAll]
    simp [Writer.empty]
  refine ⟨isIndented, alone, fun before forest closed => ?_⟩
  rw [Writer.writeAll_append, Element.writeAll_traversalAll, closed, alone]

/-- Two closing tags that are too many, and an element of two levels behind them. -/
theorem surplus_closing_tags_leave_no_trace :
    (Writer.empty.writeAll [.closing "a", .opening "b", .closing "b", .closing "c"]).depth = 0 ∧
      Writer.empty.writeAll ([.closing "a", .opening "b", .closing "b", .closing "c"] ++
          Element.traversalAll [.around "x" "x" [.leaf "y" "1"]]) =
        ⟨"</a>\n<b>\n</b>\n</c>\n" ++ "<x>\n\t<y> 1 </y>\n</x>\n", 0⟩ :=
  ⟨rfl, indentation_is_height_above_lowest.2.2
    [.closing "a", .opening "b", .closing "b", .closing "c"]
    [.around "x" "x" [.leaf "y" "1"]] rfl⟩

end JackSyntax
