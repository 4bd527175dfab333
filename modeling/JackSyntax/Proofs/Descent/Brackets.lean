/-
**Procedures give back what they take.**

Whether a procedure closes what it opens, in the right order, and leaves what it enters, can be seen
from its text: both sides of a choice have to hold the same in the end, and a round of a loop what
it held in the beginning.  Calls hold nothing.  So the question is answered by a function that
follows the text of a procedure with what is held at each place.

In a descent, what is held since some point in time is found again in the two counts and in what has
been written since: complete trees, then an opening tag, then complete trees inside it, and so on.
Every move that the function lets pass changes one in the way of the other.

Main definitions:

* `Held` — what is held: recursive phrases entered, elements opened;
* `Action.afterAll` — what is held behind some actions, if they may be done;
* `Draft.write` — complete trees inside elements that are still open;
* `Descent.Since` — what a descent has done since some point in time.

Main results:

* `Production.afterAll_body` — **every procedure gives back what it takes**;
* `Descent.Since.make` — a move that may be done changes the descent in the way of what is held.
-/

import JackSyntax.Proofs.Descent.Productions

set_option relaxedAutoImplicit false
set_option autoImplicit false

namespace JackSyntax

open JackSyntax.Tree

/-! ### What a procedure holds -/

/-- What a procedure holds at some place of its text. -/
structure Held where
  /-- The number of recursive phrases that it has entered and not left. -/
  entered : Nat
  /-- The elements that it has opened and not closed, innermost first. -/
  opened : List Phrase
  deriving DecidableEq

/-- A procedure holds nothing in the beginning. -/
def Held.nothing : Held := ⟨0, []⟩

/-- What is held behind a move.  Only the innermost open element may be closed, and a recursive
phrase may be left only if one has been entered. -/
def Move.after (held : Held) : Move → Option Held
  | .opening phrase => some ⟨held.entered, phrase :: held.opened⟩
  | .closing phrase =>
      if held.opened.head? = some phrase then some ⟨held.entered, held.opened.tail⟩ else none
  | .enter => some ⟨held.entered + 1, held.opened⟩
  | .leave => if held.entered = 0 then none else some ⟨held.entered - 1, held.opened⟩
  | .advance => some held
  | .expect _ => some held
  | .refuse _ => some held

mutual

/-- What is held behind an action. -/
def Action.after (held : Held) : Action → Option Held
  | .move step => step.after held
  | .choose _ yes no =>
      if afterAll held yes = afterAll held no then afterAll held yes else none
  | .loop _ body => if afterAll held body = some held then some held else none
  | .call _ => some held

/-- What is held behind actions that are done one after the other. -/
def Action.afterAll (held : Held) : List Action → Option Held
  | [] => some held
  | action :: actions => (after held action).bind fun held' => afterAll held' actions

end

/-- Every procedure gives back what it takes. -/
theorem Production.afterAll_body (production : Production) :
    Action.afterAll .nothing production.body = some .nothing := by
  cases production <;> rfl

/-! ### Drafts -/

namespace Draft

/-- Writes trees inside elements that are still open.  The elements of `around`, innermost first,
come with the trees that stand before them; the trees of `row` are inside all of them. -/
def write (w : Writer) : List (Phrase × List Tree) → List Tree → Writer
  | [], row => writeRow w row
  | (phrase, before) :: around, row =>
      writeRow ((write w around before).write (.opening phrase.tag)) row

/-- The tokens of a draft, from left to right. -/
def tokens : List (Phrase × List Tree) → List Tree → List Token
  | [], row => tokensAll row
  | (_, before) :: around, row => tokens around before ++ tokensAll row

variable (w : Writer) (around : List (Phrase × List Tree)) (row more : List Tree)

theorem writeRow_append : writeRow w (row ++ more) = writeRow (writeRow w row) more := by
  induction row generalizing w with
  | nil => rfl
  | cons tree row ih => exact ih _

theorem write_append : write w around (row ++ more) = writeRow (write w around row) more := by
  cases around <;> exact writeRow_append ..

theorem tokens_append : tokens around (row ++ more) = tokens around row ++ tokensAll more := by
  cases around <;> simp [tokens]

theorem depth_write : (write w around row).depth = w.depth + around.length := by
  induction around generalizing row with
  | nil => simp [write]
  | cons first around ih => simp [write, ih, Mark.depthAfter, Nat.add_assoc]

/-- With its closing tag the innermost open element becomes a tree. -/
theorem write_closing (phrase : Phrase) (before : List Tree) :
    (write w ((phrase, before) :: around) row).write (.closing phrase.tag) =
      write w around (before ++ [.node phrase row]) := by
  rw [write_append]
  rfl

theorem tokens_closing (phrase : Phrase) (before : List Tree) :
    tokens around (before ++ [.node phrase row]) = tokens ((phrase, before) :: around) row := by
  simp [tokens_append, tokens]

end Draft

/-! ### What a descent has done -/

namespace Descent

/-- What has been done between two states of a descent, when `held` is held. -/
structure Since (start : Descent) (held : Held) (d : Descent) : Prop where
  /-- More recursive phrases are entered, as many as are held. -/
  depth : d.depth = start.depth + held.entered
  /-- Tokens have been read, and the same tokens have been written in trees, inside those elements
  that are held open. -/
  written : ∃ around row passed, around.map Prod.fst = held.opened ∧
    d.writer = Draft.write start.writer around row ∧
    start.ahead = d.ahead.prepend passed ∧ Draft.tokens around row = passed.map Located.item

variable {start d d' : Descent} {held held' : Held}

/-- Nothing has been done yet. -/
theorem Since.refl (d : Descent) : Since d .nothing d :=
  ⟨rfl, [], [], [], rfl, rfl, rfl, rfl⟩

/-- What is done with nothing held adds complete trees. -/
theorem Since.trans (h : Since start held d) (h' : Since d .nothing d') : Since start held d' := by
  obtain ⟨depth, around, row, passed, opened, writer, ahead, tokens⟩ := h
  obtain ⟨depth', around', row', passed', opened', writer', ahead', tokens'⟩ := h'
  obtain rfl := List.map_eq_nil_iff.1 opened'
  refine ⟨?_, around, row ++ row', passed ++ passed', opened, ?_, ?_, ?_⟩
  · rw [depth', depth]
    rfl
  · rw [writer', writer, Draft.write_append]
    rfl
  · rw [ahead, ahead', Scan.prepend_append]
  · rw [Draft.tokens_append, tokens, List.map_append, ← tokens']
    rfl

/-- The writer counts the elements that are held open. -/
theorem Since.depth_writer (h : Since start held d) :
    d.writer.depth = start.writer.depth + held.opened.length := by
  obtain ⟨-, around, row, passed, opened, writer, -, -⟩ := h
  rw [writer, Draft.depth_write, ← opened, List.length_map]

/-! ### Moves -/

/-- Advancing reads a token and writes it, or does nothing at the end. -/
theorem advance_cases (h : d.advance = .returned d') :
    d' = d ∨ ∃ token, d.ahead = d'.ahead.prepend [token] ∧ d'.depth = d.depth ∧
      d'.writer = d.writer.write (.token token.item) := by
  obtain ⟨⟨tokens, ending⟩, depth, writer⟩ := d
  cases tokens with
  | nil =>
      cases h
      exact Or.inl rfl
  | cons token tokens =>
      unfold advance at h
      cases loading : Scan.load ⟨tokens, ending⟩ with
      | error failure =>
          simp only [loading] at h
          cases h
      | ok ahead =>
          obtain ⟨rfl, -⟩ := Scan.loaded_of_load loading
          simp only [loading] at h
          cases h
          exact Or.inr ⟨token, rfl, rfl, rfl⟩

/-- Advancing writes as a tree what it reads. -/
theorem since_advance (h : d.advance = .returned d') : Since d .nothing d' := by
  rcases advance_cases h with rfl | ⟨token, ahead, depth, writer⟩
  · exact .refl _
  · exact ⟨depth, [], [.leaf token.item], [token], rfl, writer, ahead, by simp [Draft.tokens]⟩

/-- Reading a token of a class is advancing, where one is ahead. -/
theorem advance_of_expect {terminal : Terminal} (h : d.make (.expect terminal) = .returned d') :
    d.advance = .returned d' := by
  simp only [make] at h
  split at h
  · exact h
  · cases h

/-- A move that may be done changes the descent in the way of what is held. -/
theorem Since.make {step : Move} (h : Since start held d) (checked : step.after held = some held')
    (returned : d.make step = .returned d') : Since start held' d' := by
  obtain ⟨depth, around, row, passed, opened, writer, ahead, tokens⟩ := id h
  cases step with
  | opening phrase =>
      cases checked
      cases returned
      refine ⟨depth, (phrase, row) :: around, [], passed, ?_, ?_, ahead, ?_⟩
      · rw [List.map_cons, opened]
      · exact congrArg (Writer.write · (.opening phrase.tag)) writer
      · simpa [Draft.tokens] using tokens
  | closing phrase =>
      simp only [Move.after] at checked
      split at checked
      · rename_i innermost
        cases checked
        cases returned
        -- the innermost open element is the one that is closed
        cases around with
        | nil =>
            rw [← opened] at innermost
            cases innermost
        | cons first around =>
            obtain ⟨own, before⟩ := first
            rw [← opened] at innermost ⊢
            obtain rfl : own = phrase := Option.some.inj innermost
            refine ⟨depth, around, before ++ [.node own row], passed, rfl, ?_, ahead, ?_⟩
            · rw [← Draft.write_closing, ← writer]
            · rw [Draft.tokens_closing, tokens]
      · cases checked
  | enter =>
      cases checked
      simp only [Descent.make] at returned
      split at returned
      · cases returned
      · cases returned
        exact ⟨by rw [depth, Nat.add_assoc], around, row, passed, opened, writer, ahead, tokens⟩
  | leave =>
      simp only [Move.after] at checked
      split at checked
      · cases checked
      · cases checked
        cases returned
        refine ⟨?_, around, row, passed, opened, writer, ahead, tokens⟩
        simp only [depth]
        omega
  | advance =>
      cases checked
      exact h.trans (since_advance returned)
  | expect terminal =>
      cases checked
      exact h.trans (since_advance (advance_of_expect returned))
  | refuse terminal => cases returned

end Descent

end JackSyntax
