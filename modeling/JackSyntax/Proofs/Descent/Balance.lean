/-
**Productions are balanced.**

A descent counts the recursive phrases that it has entered, and its writer the elements that are
open.  Any step may fail, and then the counts stay as they are; so what matters is what is left
behind by a production that returns.  It is as if nothing had been entered or opened: the counts are
those from before, and what has been written in between are complete elements with the tokens that
have been read in between.

So the counts never run over.  No more phrases are entered than there are levels; none is left, and
no element is closed, where there is none, and the writer never has to make up for a closing tag
without its opening tag.

Main definitions:

* `Descent.Adds` — what is left behind by a production that returns;
* `Trace.IsBalanced` — both counts are kept right all the way.

Main results:

* `Descent.Since.adds` — complete trees are complete elements in the text;
* `productions_are_balanced` — **every descent is balanced**, and one that has a result ends with
  both counts at zero.
-/

import JackSyntax.Proofs.Descent.CallDepth
import JackSyntax.Proofs.Markup.Documents

set_option relaxedAutoImplicit false
set_option autoImplicit false

namespace JackSyntax

open JackSyntax.Tree

/-! ### Productions that return -/

/-- What a production that returns has done. -/
structure Descent.Adds (before after : Descent) : Prop where
  /-- As many recursive phrases are entered as before. -/
  depth : after.depth = before.depth
  /-- As many elements are open as before. -/
  writer : after.writer.depth = before.writer.depth
  /-- Tokens have been read, and a text has been added.  Its lines are complete elements inside those
  that are open, and its leaves are the tokens in the same order. -/
  added : ∃ text rows passed,
    before.ahead = after.ahead.prepend passed ∧
    after.writer.text = before.writer.text ++ text ∧
    text.toList.splitOn '\n' = rows.map Row.text ++ [[]] ∧
    Elements before.writer.depth rows ∧
    leaves text = passed.map fun token => token.item.element

/-- Both counts of a descent are kept right. -/
structure Trace.IsBalanced (t : Trace) : Prop where
  /-- Every call that returns leaves the counts as they were and adds complete elements. -/
  calls : ∀ moment ∈ t.moments, ∀ production after, moment.action = .call production →
    moment.exit = .returned after → moment.before.Adds after
  /-- Before and behind everything that is done, at most 128 recursive phrases are entered. -/
  depth : ∀ moment ∈ t.moments, moment.before.depth ≤ 128 ∧
    ∀ after, moment.exit = .returned after → after.depth ≤ 128
  /-- A recursive phrase is left only where one is entered. -/
  leave : ∀ moment ∈ t.moments, moment.action = .leave → 0 < moment.before.depth
  /-- An element is closed only where one is open. -/
  closing : ∀ moment ∈ t.moments, ∀ phrase, moment.action = .closing phrase →
    0 < moment.before.writer.depth
  /-- In the end nothing is entered and nothing is open. -/
  ends : ∀ d, t.exit = .returned d → d.depth = 0 ∧ d.writer.depth = 0

/-- Complete trees are complete elements in the text. -/
theorem Descent.Since.adds {before after : Descent} (h : before.Since .nothing after)
    (proper : before.IsProper) : before.Adds after := by
  obtain ⟨depth, around, row, passed, opened, writer, ahead, tokens⟩ := h
  obtain rfl := List.map_eq_nil_iff.1 opened
  have written : after.writer = writeRow before.writer row := writer
  have leafTokens : tokensAll row = passed.map Located.item := tokens
  have printable : ∀ token ∈ tokensAll row, token.IsPrintable := by
    rw [leafTokens, List.forall_mem_map]
    intro token inside
    refine proper.printable token ?_
    rw [ahead]
    exact List.mem_append_left _ inside
  have whole := elements_rowsAll before.writer.depth row printable
  have lines := toList_linesAll before.writer.depth row
  have noFeeds := newline_not_mem_of_rows lines fun other inside => (whole.wellFormed other inside).1
  refine ⟨depth, ?writer, unlines (linesAll before.writer.depth row),
    rowsAll before.writer.depth row, passed, ahead, ?text, ?lines, whole, ?leaves⟩
  case writer => rw [written, depth_writeRow]
  case text => rw [written, text_writeRow]
  case lines => rw [splitOn_unlines noFeeds, lines]
  case leaves =>
    rw [leaves_unlines noFeeds, leaves_linesAll, leafTokens, List.map_map]
    rfl

/-! ### Whole descents -/

theorem isBalanced_descend (budget : Nat) (source : String) :
    (descend budget source).IsBalanced := by
  obtain ⟨sound, final⟩ := satisfies_descend budget source
  refine ⟨?calls, ?depth, fun moment inside => (sound moment inside).leave,
    fun moment inside => (sound moment inside).closing, ?ends⟩
  case calls =>
    intro moment inside production after called returned
    have done := (sound moment inside).call production after called returned
    exact done.adds (sound moment inside).before
  case depth =>
    intro moment inside
    have before := (sound moment inside).before.depth
    exact ⟨before, fun after returned => ((sound moment inside).after after returned).depth⟩
  case ends =>
    intro d returned
    obtain ⟨ahead, since⟩ := final d returned
    exact ⟨since.depth, since.depth_writer⟩

/-- A descent with a text for its result has returned, with that text written. -/
theorem Trace.exit_of_result {t : Trace} {text : String} (h : t.result = some (.ok text)) :
    ∃ d, t.exit = .returned d ∧ d.writer.text = text := by
  unfold Trace.result at h
  split at h
  · rename_i d returned
    split at h
    · cases h
    · exact ⟨d, returned, Except.ok.inj (Option.some.inj h)⟩
  · cases h
  · cases h

/-- **Productions are balanced.**  However a source is read, and wherever it is given up:

* a production that returns leaves both counts as it found them, and it has written the tokens that
  it has read, in complete elements;
* the nesting depth stays between 0 and 128, no phrase is left at depth 0, and no element is closed
  at depth 0 of the writer.

The parser is such a descent.  If it accepts the source, both counts are 0 in the end. -/
theorem productions_are_balanced (source : String) :
    (∀ budget, (descend budget source).IsBalanced) ∧
      (descend 700 source).result = some (parse source) ∧
      ∀ text, parse source = .ok text → ∃ after, (descend 700 source).exit = .returned after ∧
        after.depth = 0 ∧ after.writer = ⟨text, 0⟩ := by
  have answered := result_descend (by decide : 645 ≤ 700) source
  refine ⟨fun budget => isBalanced_descend budget source, answered, fun text accepted => ?_⟩
  rw [accepted] at answered
  obtain ⟨after, returned, rfl⟩ := Trace.exit_of_result answered
  obtain ⟨depth, opened⟩ := (isBalanced_descend 700 source).ends after returned
  exact ⟨after, returned, depth, congrArg (Writer.mk after.writer.text) opened⟩

/-- A class with statements inside statements and terms inside terms is read in balance. -/
theorem nested_class_is_balanced :
    let source := "class A \x7b field int x; method int f(int y) \x7b var int z; " ++
      "if (y) \x7b do g(-x, (y)); \x7d return a[x] + b.c(1); \x7d \x7d"
    (descend 700 source).IsBalanced ∧ ∃ text after, parse source = .ok text ∧
      (descend 700 source).exit = .returned after ∧ after.depth = 0 ∧ after.writer = ⟨text, 0⟩ := by
  intro source
  obtain ⟨balanced, -, ends⟩ := productions_are_balanced source
  obtain ⟨text, accepted⟩ :=
    exists_eq_ok_of_isOk (by decide +kernel : (parse source).isOk = true)
  obtain ⟨after, returned⟩ := ends text accepted
  exact ⟨balanced 700, text, after, accepted, returned⟩

end JackSyntax
