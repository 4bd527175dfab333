/-
**What holds at every moment of a descent.**

A statement about everything that is done in a descent is shown in the way of a program logic.  It
comes with a second statement about the state in which a part of the descent returns, so that the
two can be put together: where one part returns, the next one begins.  Every move has to be looked
at once; choices, loops and calls only pass on what holds of their parts.

Main definitions:

* `Trace.Satisfies` — one thing holds at every moment, another one in the end;
* `Descent.IsProper` — nesting is within the limit, and only printable tokens are ahead;
* `Moment.IsSound` — what holds at every moment of a descent.

Main results:

* `Trace.Satisfies.andThen`, `Trace.satisfies_repeatWhile` — parts are put together;
* `reaches_performAll` — actions that may be done are sound, and hold in the end what is computed;
* `reaches_production` — **a procedure adds complete trees, and everything is sound on the way**, by
  induction on the budget of calls;
* `isPrintable_of_mem_scan` — the tokens of a source are printable;
* `satisfies_descend` — both for a whole source.
-/

import JackSyntax.Proofs.Descent.Brackets
import JackSyntax.Proofs.Lexing.Positions
import JackSyntax.Proofs.Markup.Unescape

set_option relaxedAutoImplicit false
set_option autoImplicit false

namespace JackSyntax

/-! ### Traces -/

/-- `always` holds at every moment, and `inEnd` where the trace returns. -/
def Trace.Satisfies (t : Trace) (always : Moment → Prop) (inEnd : Descent → Prop) : Prop :=
  (∀ moment ∈ t.moments, always moment) ∧ ∀ d, t.exit = .returned d → inEnd d

namespace Trace

variable {always : Moment → Prop} {inEnd between : Descent → Prop}

/-- Nothing is done, so nothing is to be shown of it. -/
theorem satisfies_returned {d : Descent} (h : inEnd d) :
    Satisfies ⟨[], .returned d⟩ always inEnd :=
  ⟨by simp, fun d' same => Exit.returned.inj same ▸ h⟩

theorem satisfies_gaveUp : Satisfies ⟨[], .gaveUp⟩ always inEnd :=
  ⟨by simp, fun d' impossible => by cases impossible⟩

/-- Where one part returns, the next one begins. -/
theorem Satisfies.andThen {t : Trace} {next : Descent → Trace} (h : t.Satisfies always between)
    (h' : ∀ d, between d → (next d).Satisfies always inEnd) :
    (t.andThen next).Satisfies always inEnd := by
  obtain ⟨moments, exit⟩ := t
  cases exit with
  | returned d =>
      obtain ⟨later, final⟩ := h' d (h.2 d rfl)
      exact ⟨List.forall_mem_append.2 ⟨h.1, later⟩, final⟩
  | failed failure => exact ⟨h.1, fun d impossible => by cases impossible⟩
  | gaveUp => exact ⟨h.1, fun d impossible => by cases impossible⟩

/-- An action is one more moment. -/
theorem Satisfies.note {t : Trace} {calls : List Production} {action : Action} {before : Descent}
    (h : t.Satisfies always inEnd) (own : always ⟨calls, action, before, t.exit⟩) :
    (t.note calls action before).Satisfies always inEnd :=
  ⟨List.forall_mem_cons.2 ⟨own, h.1⟩, h.2⟩

/-- What every round of a loop preserves, the loop preserves. -/
theorem satisfies_repeatWhile {body : Descent → Trace} (terminal : Terminal)
    (round : ∀ d, between d → (body d).Satisfies always between) (rounds : List (Located Token))
    (d : Descent) (h : between d) :
    (repeatWhile terminal body rounds d).Satisfies always between := by
  induction rounds generalizing d with
  | nil =>
      unfold repeatWhile
      split
      · exact satisfies_gaveUp
      · exact satisfies_returned h
  | cons _ rounds ih =>
      unfold repeatWhile
      split
      · exact (round d h).andThen ih
      · exact satisfies_returned h

end Trace

/-! ### Moments -/

/-- Nesting is within the limit, and only printable tokens are ahead. -/
structure Descent.IsProper (d : Descent) : Prop where
  depth : d.depth ≤ maxNesting
  printable : ∀ token ∈ d.ahead.tokens, token.item.IsPrintable

/-- What holds at every moment of a descent. -/
structure Moment.IsSound (limit : Nat) (moment : Moment) : Prop where
  before : moment.before.IsProper
  after : ∀ after, moment.exit = .returned after → after.IsProper
  calls : moment.calls.length ≤ limit
  /-- A recursive phrase is left only where one is entered. -/
  leave : moment.action = .leave → 0 < moment.before.depth
  /-- An element is closed only where one is open. -/
  closing : ∀ phrase, moment.action = .closing phrase → 0 < moment.before.writer.depth
  /-- A call that returns adds complete trees. -/
  call : ∀ production after, moment.action = .call production → moment.exit = .returned after →
    moment.before.Since .nothing after

namespace Descent

variable {start d d' : Descent} {held held' : Held} {step : Move}

/-- Proper states are left by no move. -/
theorem IsProper.make (h : d.IsProper) (returned : d.make step = .returned d') : d'.IsProper := by
  have advanced : d.advance = .returned d' → d'.IsProper := by
    intro returned
    rcases advance_cases returned with rfl | ⟨token, ahead, depth, -⟩
    · exact h
    · refine ⟨depth ▸ h.depth, fun other inside => h.printable other ?_⟩
      rw [ahead]
      exact List.mem_append_right _ inside
  cases step with
  | opening | closing =>
      cases returned
      exact ⟨h.depth, h.printable⟩
  | enter =>
      simp only [Descent.make] at returned
      split at returned
      · cases returned
      · rename_i below
        cases returned
        exact ⟨Nat.lt_of_le_of_ne h.depth below, h.printable⟩
  | leave =>
      cases returned
      exact ⟨Nat.le_trans (Nat.sub_le _ _) h.depth, h.printable⟩
  | advance => exact advanced returned
  | expect => exact advanced (advance_of_expect returned)
  | refuse => cases returned

/-- A move that may be done is sound: what it takes away is there. -/
theorem Since.isSound (h : Since start held d) (proper : d.IsProper)
    (checked : step.after held = some held') {limit : Nat} {calls : List Production}
    (room : calls.length ≤ limit) :
    Moment.IsSound limit ⟨calls, .move step, d, d.make step⟩ := by
  refine ⟨proper, fun _ => proper.make, room, ?leave, ?closing, fun _ _ impossible => ?_⟩
  case leave =>
    rintro ⟨⟩
    have entered : held.entered ≠ 0 := by
      intro none
      simp [Move.after, none] at checked
    have depth := h.depth
    simp only
    omega
  case closing =>
    rintro phrase ⟨⟩
    have opened : held.opened ≠ [] := by
      intro none
      simp [Move.after, none] at checked
    have some := List.length_pos_iff.2 opened
    have depth := h.depth_writer
    simp only
    omega
  cases impossible

/-- An action that is neither a move nor a call is sound in every proper state. -/
theorem IsProper.isSound (h : d.IsProper) {limit : Nat} {calls : List Production}
    (room : calls.length ≤ limit) {action : Action} {exit : Exit}
    (after : ∀ after, exit = .returned after → after.IsProper)
    (noMove : ∀ step, action ≠ .move step) (noCall : ∀ production, action ≠ .call production) :
    Moment.IsSound limit ⟨calls, action, d, exit⟩ :=
  ⟨h, after, room, fun same => absurd same (noMove _), fun _ same => absurd same (noMove _),
    fun production _ same => absurd same (noCall production)⟩

end Descent

/-! ### Procedures -/

/-- What a part of a descent makes of a proper state: `held` is held behind it, and everything on
the way is sound. -/
def Trace.Reaches (limit : Nat) (start : Descent) (held : Held) (t : Trace) : Prop :=
  t.Satisfies (Moment.IsSound limit) fun d => start.Since held d ∧ d.IsProper

section

variable {limit : Nat} {call : Production → Descent → Trace} {calls : List Production}
  {start d : Descent} {held held' : Held}

mutual

/-- What a function that follows the text says to be held is held behind an action. -/
theorem reaches_perform
    (inner : ∀ production d, d.IsProper → (call production d).Reaches limit d .nothing)
    (room : calls.length ≤ limit) : (action : Action) → (held held' : Held) →
    action.after held = some held' → (d : Descent) → start.Since held d → d.IsProper →
    (action.perform call calls d).Reaches limit start held'
  | .move step => by
      intro held held' checked d since proper
      refine Trace.Satisfies.note ⟨by simp, fun d' returned => ?_⟩
        (since.isSound proper checked room)
      exact ⟨since.make checked returned, proper.make returned⟩
  | .choose terminal yes no => by
      intro held held' checked d since proper
      simp only [Action.after] at checked
      split at checked
      · rename_i same
        have chosen : Trace.Reaches limit start held' (if d.ahead.sees terminal
            then Action.performAll call calls yes d else Action.performAll call calls no d) := by
          split
          · exact reaches_performAll inner room yes held held' checked d since proper
          · exact reaches_performAll inner room no held held' (same ▸ checked) d since proper
        exact chosen.note
          (proper.isSound room (fun d' returned => (chosen.2 d' returned).2) (by simp) (by simp))
      · cases checked
  | .loop terminal body => by
      intro held held' checked d since proper
      simp only [Action.after] at checked
      split at checked
      · rename_i round
        cases checked
        have looped := Trace.satisfies_repeatWhile terminal (fun d between =>
          reaches_performAll inner room body held held round d between.1 between.2)
          d.ahead.tokens d ⟨since, proper⟩
        exact looped.note
          (proper.isSound room (fun d' returned => (looped.2 d' returned).2) (by simp) (by simp))
      · cases checked
  | .call production => by
      intro held held' checked d since proper
      cases checked
      have called := inner production d proper
      refine Trace.Satisfies.note ⟨called.1, fun d' returned => ?_⟩
        ⟨proper, fun d' returned => (called.2 d' returned).2, room, by simp, by simp, ?_⟩
      · obtain ⟨added, proper'⟩ := called.2 d' returned
        exact ⟨since.trans added, proper'⟩
      · rintro _ after ⟨⟩ returned
        exact (called.2 after returned).1

theorem reaches_performAll
    (inner : ∀ production d, d.IsProper → (call production d).Reaches limit d .nothing)
    (room : calls.length ≤ limit) : (actions : List Action) → (held held' : Held) →
    Action.afterAll held actions = some held' → (d : Descent) → start.Since held d → d.IsProper →
    (Action.performAll call calls actions d).Reaches limit start held'
  | [] => by
      intro held held' checked d since proper
      cases checked
      exact Trace.satisfies_returned ⟨since, proper⟩
  | action :: actions => by
      intro held held' checked d since proper
      simp only [Action.afterAll, Option.bind_eq_some_iff] at checked
      obtain ⟨between, first, rest⟩ := checked
      have once := reaches_perform inner room action held between first d since proper
      exact once.andThen fun d' reached =>
        reaches_performAll inner room actions between held' rest d' reached.1 reached.2

end

end

/-- Performing a procedure adds complete trees and is sound on the way, however many calls there may
be. -/
theorem reaches_production {limit : Nat} (budget : Nat) (calls : List Production)
    (room : calls.length + budget ≤ limit) (production : Production) (d : Descent)
    (proper : d.IsProper) : (production.perform budget calls d).Reaches limit d .nothing := by
  induction budget generalizing calls production d with
  | zero => exact Trace.satisfies_gaveUp
  | succ budget ih =>
      have inner := ih (production :: calls) (by rw [List.length_cons]; omega)
      have room' : (production :: calls).length ≤ limit := by
        rw [List.length_cons]
        omega
      exact reaches_performAll inner room' production.body .nothing .nothing
        production.afterAll_body d (.refl d) proper

/-! ### The tokens of a source -/

/-- A token that is read can be printed.  An identifier may be spelled like a keyword here. -/
theorem isPrintable_of_readToken {text rest : List Char} {token : Token}
    (h : readToken text = .ok (token, rest)) : token.IsPrintable := by
  rcases readToken_cases text with ⟨rfl, answer⟩ | ⟨c, text, rfl, ⟨listed, answer⟩ | ⟨-, answer⟩ |
    ⟨rfl, answer⟩ | ⟨-, answer⟩ | answer⟩ <;> rw [answer] at h
  · cases h
  · cases h
    have lexical : (Token.symbol c).IsLexical := List.contains_iff_mem.1 listed
    exact lexical.isPrintable
  · simp only [readInteger] at h
    split at h
    · cases h
      exact Token.IsLexical.isPrintable trivial
    · cases h
  · unfold readString at h
    split at h
    · cases h
      refine Token.IsLexical.isPrintable fun c inside => ?_
      rw [String.toList_ofList] at inside
      exact List.mem_takeWhile_imp inside
    · cases h
  · simp only [readWord] at h
    split at h
    · cases h
      exact Token.IsLexical.isPrintable trivial
    · cases h
      refine Token.isPrintable_identifier fun c inside => ?_
      rw [String.toList_ofList] at inside
      exact List.mem_takeWhile_imp inside
  · cases h

/-- The tokens of a source can be printed, whether or not an error follows them. -/
theorem isPrintable_of_mem_scan {source : String} :
    ∀ token ∈ (scan source).tokens, token.item.IsPrintable := by
  have printable : ∀ {tokens c}, Reached source tokens c → ∀ token ∈ tokens, token.IsPrintable := by
    intro tokens c reached
    induction reached with
    | start => simp
    | next _ step ih =>
        obtain ⟨rest, read, -⟩ := Cursor.next?_eq_ok_iff.1 step
        exact List.forall_mem_append.2
          ⟨ih, List.forall_mem_singleton.2 (isPrintable_of_readToken read)⟩
  obtain ⟨c, reached, -, -⟩ := exists_reached_ending source
  intro token inside
  exact printable reached token.item (List.mem_map_of_mem inside)

/-- A descent through a source is sound at every moment, and what it adds are complete trees. -/
theorem satisfies_descend (budget : Nat) (source : String) :
    (descend budget source).Satisfies (Moment.IsSound budget) fun d =>
      ∃ ahead, Descent.Since ⟨ahead, 0, .empty⟩ .nothing d := by
  unfold descend
  cases loading : (scan source).load with
  | error failure => exact ⟨by simp, fun d impossible => by cases impossible⟩
  | ok ahead =>
      obtain ⟨rfl, -⟩ := Scan.loaded_of_load loading
      have proper : Descent.IsProper ⟨scan source, 0, .empty⟩ :=
        ⟨Nat.zero_le _, isPrintable_of_mem_scan⟩
      have room : ([] : List Production).length ≤ budget := Nat.zero_le _
      have inner := reaches_production budget [] (Nat.le_of_eq (Nat.zero_add budget))
      obtain ⟨sound, final⟩ := reaches_perform inner room (.call .classDec) .nothing .nothing rfl
        ⟨scan source, 0, .empty⟩ (.refl _) proper
      exact ⟨sound, fun d returned => ⟨_, (final d returned).1⟩⟩

end JackSyntax
