/-
**Reading without a limit.**

The reader gives up when too many recursive phrases are open at the same time.  Here is the reader
that never gives up for this reason: its runs are those of the reader, but they keep count of the
open phrases and remember every opening, with the number of phrases that are then open and with what
is ahead.  A run without a limit is a run with any limit that no opening exceeds; and with a smaller
limit the reader fails where the first opening exceeds it.

There always is a run without a limit.  A recursive phrase is entered only behind a token of the
phrase around it, so no more phrases can be open at the same time than there are tokens.

Main definitions:

* `Opening` — a recursive phrase is opened;
* `Rule.ReadsFreely`, `Rule.FailsFreely` — the runs without a limit;
* `Rule.isGuarded` — recursive phrases are entered only behind a token.

Main results:

* `Rule.ReadsFreely.reads`, `Rule.FailsFreely.fails` — a limit that no opening exceeds changes
  nothing;
* `Rule.ReadsFreely.tooDeep`, `Rule.FailsFreely.tooDeep` — **any other limit cuts the run off at the
  first opening that exceeds it**;
* `Rule.Reads.readsFreely`, `Rule.Fails.failsFreely` — a run that is not cut off is one without a
  limit;
* `Rule.Fails.levels_le` — a run is cut off only if there are as many tokens as levels.
-/

import JackSyntax.Proofs.Reading.Locality

set_option relaxedAutoImplicit false
set_option autoImplicit false

namespace JackSyntax

/-- A recursive phrase is opened: the number of recursive phrases that are open from then on, and
what is ahead. -/
structure Opening where
  depth : Nat
  ahead : Scan

namespace Rule

/-! ### Runs without a limit -/

/-- `ReadsFreely depth rule s openings row s'`: with `depth` recursive phrases open, the rule is
read as `row` from `s` on, and `s'` is what remains.  On the way the recursive phrases of `openings`
are opened, in this order. -/
inductive ReadsFreely : Nat → Rule → Scan → List Opening → List Tree → Scan → Prop
  | empty (depth : Nat) (s : Scan) : ReadsFreely depth .empty s [] [] s
  | token (depth : Nat) {terminal : Terminal} {token : Located Token}
      {tokens : List (Located Token)} {ending : Ending} :
      terminal.admits token.item = true → Scan.Loaded ⟨tokens, ending⟩ →
      ReadsFreely depth (.token terminal) ⟨token :: tokens, ending⟩ [] [.leaf token.item]
        ⟨tokens, ending⟩
  | seq {depth : Nat} {first second : Rule} {s s₁ s₂ : Scan} {openings openings' : List Opening}
      {row row' : List Tree} :
      ReadsFreely depth first s openings row s₁ → ReadsFreely depth second s₁ openings' row' s₂ →
      ReadsFreely depth (.seq first second) s (openings ++ openings') (row ++ row') s₂
  | element {depth : Nat} (phrase : Phrase) {body : Rule} {s s' : Scan} {openings : List Opening}
      {row : List Tree} :
      ReadsFreely depth body s openings row s' →
      ReadsFreely depth (.element phrase body) s openings [.node phrase row] s'
  | yes {depth : Nat} {terminal : Terminal} {yes : Rule} (no : Rule) {s s' : Scan}
      {openings : List Opening} {row : List Tree} :
      s.sees terminal = true → ReadsFreely depth yes s openings row s' →
      ReadsFreely depth (.branch terminal yes no) s openings row s'
  | no {depth : Nat} {terminal : Terminal} (yes : Rule) {no : Rule} {s s' : Scan}
      {openings : List Opening} {row : List Tree} :
      s.sees terminal = false → ReadsFreely depth no s openings row s' →
      ReadsFreely depth (.branch terminal yes no) s openings row s'
  | done (depth : Nat) {terminal : Terminal} (body : Rule) {s : Scan} :
      s.sees terminal = false → ReadsFreely depth (.loop terminal body) s [] [] s
  | more {depth : Nat} {terminal : Terminal} {body : Rule} {s s₁ s₂ : Scan}
      {openings openings' : List Opening} {row row' : List Tree} :
      s.sees terminal = true → ReadsFreely depth body s openings row s₁ →
      ReadsFreely depth (.loop terminal body) s₁ openings' row' s₂ →
      ReadsFreely depth (.loop terminal body) s (openings ++ openings') (row ++ row') s₂
  | nested {depth : Nat} {phrase : Recursive} {s s' : Scan} {openings : List Opening}
      {row : List Tree} :
      ReadsFreely (depth + 1) (Grammar.body phrase) s openings row s' →
      ReadsFreely depth (.nested phrase) s (⟨depth + 1, s⟩ :: openings) row s'

/-- `FailsFreely depth rule s openings failure`: with `depth` recursive phrases open, the reading of
the rule from `s` on ends with the failure.  Until then the recursive phrases of `openings` are
opened, in this order. -/
inductive FailsFreely : Nat → Rule → Scan → List Opening → Failure → Prop
  | cut (depth : Nat) {terminal : Terminal} {token : Located Token} {error : LexError} :
      terminal.admits token.item = true →
      FailsFreely depth (.token terminal) ⟨[token], .failed error⟩ []
        ⟨.lexical error.item, ⟨[], .failed error⟩⟩
  | missing (depth : Nat) {terminal : Terminal} {s : Scan} : s.sees terminal = false →
      FailsFreely depth (.token terminal) s [] ⟨.unexpected terminal.expected s.lookahead, s⟩
  | refuse (depth : Nat) (terminal : Terminal) (s : Scan) :
      FailsFreely depth (.refuse terminal) s [] ⟨.unexpected terminal.expected s.lookahead, s⟩
  | first {depth : Nat} {first : Rule} (second : Rule) {s : Scan} {openings : List Opening}
      {failure : Failure} :
      FailsFreely depth first s openings failure →
      FailsFreely depth (.seq first second) s openings failure
  | second {depth : Nat} {first second : Rule} {s s₁ : Scan} {openings openings' : List Opening}
      {row : List Tree} {failure : Failure} :
      ReadsFreely depth first s openings row s₁ → FailsFreely depth second s₁ openings' failure →
      FailsFreely depth (.seq first second) s (openings ++ openings') failure
  | element {depth : Nat} (phrase : Phrase) {body : Rule} {s : Scan} {openings : List Opening}
      {failure : Failure} :
      FailsFreely depth body s openings failure →
      FailsFreely depth (.element phrase body) s openings failure
  | yes {depth : Nat} {terminal : Terminal} {yes : Rule} (no : Rule) {s : Scan}
      {openings : List Opening} {failure : Failure} :
      s.sees terminal = true → FailsFreely depth yes s openings failure →
      FailsFreely depth (.branch terminal yes no) s openings failure
  | no {depth : Nat} {terminal : Terminal} (yes : Rule) {no : Rule} {s : Scan}
      {openings : List Opening} {failure : Failure} :
      s.sees terminal = false → FailsFreely depth no s openings failure →
      FailsFreely depth (.branch terminal yes no) s openings failure
  | round {depth : Nat} {terminal : Terminal} {body : Rule} {s : Scan} {openings : List Opening}
      {failure : Failure} :
      s.sees terminal = true → FailsFreely depth body s openings failure →
      FailsFreely depth (.loop terminal body) s openings failure
  | later {depth : Nat} {terminal : Terminal} {body : Rule} {s s₁ : Scan}
      {openings openings' : List Opening} {row : List Tree} {failure : Failure} :
      s.sees terminal = true → ReadsFreely depth body s openings row s₁ →
      FailsFreely depth (.loop terminal body) s₁ openings' failure →
      FailsFreely depth (.loop terminal body) s (openings ++ openings') failure
  | nested {depth : Nat} {phrase : Recursive} {s : Scan} {openings : List Opening}
      {failure : Failure} :
      FailsFreely (depth + 1) (Grammar.body phrase) s openings failure →
      FailsFreely depth (.nested phrase) s (⟨depth + 1, s⟩ :: openings) failure

/-! ### Runs with a limit -/

/-- The first of some openings that exceeds a limit. -/
def firstAbove (limit : Nat) (openings : List Opening) : Option Opening :=
  openings.find? fun opening => limit < opening.depth

theorem firstAbove_eq_none {limit : Nat} {openings : List Opening} :
    firstAbove limit openings = none ↔ ∀ opening ∈ openings, opening.depth ≤ limit := by
  simp [firstAbove]

theorem firstAbove_append_eq_none {limit : Nat} {first second : List Opening} :
    firstAbove limit (first ++ second) = none ↔
      firstAbove limit first = none ∧ firstAbove limit second = none := by
  rw [firstAbove, List.find?_append, Option.or_eq_none_iff]
  rfl

theorem firstAbove_append_eq_some {limit : Nat} {first second : List Opening} {opening : Opening} :
    firstAbove limit (first ++ second) = some opening ↔
      firstAbove limit first = some opening ∨
        firstAbove limit first = none ∧ firstAbove limit second = some opening := by
  rw [firstAbove, List.find?_append, Option.or_eq_some_iff]
  rfl

/-- Where no level is left, the next opening exceeds the limit. -/
theorem firstAbove_cons_zero (depth : Nat) (s : Scan) (openings : List Opening) :
    firstAbove (depth + 0) (⟨depth + 1, s⟩ :: openings) = some ⟨depth + 1, s⟩ :=
  List.find?_cons_of_pos (by simp only [decide_eq_true_eq]; omega)

/-- Where a level is left, an opening takes it. -/
theorem firstAbove_cons_succ (depth levels : Nat) (s : Scan) (openings : List Opening) :
    firstAbove (depth + (levels + 1)) (⟨depth + 1, s⟩ :: openings) =
      firstAbove (depth + 1 + levels) openings := by
  have same : depth + (levels + 1) = depth + 1 + levels := by omega
  rw [same]
  exact List.find?_cons_of_neg (by simp only [decide_eq_true_eq]; omega)

/-- Without a limit, nesting is never too deep. -/
theorem FailsFreely.fault_ne {depth : Nat} {rule : Rule} {s : Scan} {openings : List Opening}
    {failure : Failure} (h : FailsFreely depth rule s openings failure) :
    failure.fault ≠ .nestingTooDeep := by
  induction h with
  | cut | missing | refuse => exact Fault.noConfusion
  | first _ _ ih | second _ _ ih | element _ _ ih | yes _ _ _ ih | no _ _ _ ih | round _ _ ih
  | later _ _ _ ih | nested _ ih => exact ih

section Limited

variable {depth levels : Nat} {rule : Rule} {s s' : Scan} {openings : List Opening}

/-- A successful run that no opening takes above the limit is one with the limit. -/
theorem ReadsFreely.reads {row : List Tree} (h : ReadsFreely depth rule s openings row s')
    (shallow : firstAbove (depth + levels) openings = none) : Reads levels rule s row s' := by
  induction h generalizing levels with
  | empty => exact .empty _ _
  | token _ admitted loaded => exact .token _ admitted loaded
  | seq _ _ ih₁ ih₂ =>
      obtain ⟨inFirst, inSecond⟩ := firstAbove_append_eq_none.1 shallow
      exact .seq (ih₁ inFirst) (ih₂ inSecond)
  | element phrase _ ih => exact .element phrase (ih shallow)
  | yes no seen _ ih => exact .yes no seen (ih shallow)
  | no yes unseen _ ih => exact .no yes unseen (ih shallow)
  | done _ body unseen => exact .done _ body unseen
  | more seen _ _ ih₁ ih₂ =>
      obtain ⟨inFirst, inSecond⟩ := firstAbove_append_eq_none.1 shallow
      exact .more seen (ih₁ inFirst) (ih₂ inSecond)
  | nested _ ih =>
      cases levels with
      | zero =>
          rw [firstAbove_cons_zero] at shallow
          cases shallow
      | succ levels => exact .nested (ih (firstAbove_cons_succ .. ▸ shallow))

/-- A successful run that some opening takes above the limit is cut off, with the limit, at the
first of these, and that one exceeds the limit by one. -/
theorem ReadsFreely.tooDeep {row : List Tree} (h : ReadsFreely depth rule s openings row s')
    {opening : Opening} (above : firstAbove (depth + levels) openings = some opening) :
    opening.depth = depth + levels + 1 ∧ Fails levels rule s ⟨.nestingTooDeep, opening.ahead⟩ := by
  induction h generalizing levels with
  | empty | token | done => cases above
  | @seq _ _ second _ _ _ _ _ _ _ reads _ ih₁ ih₂ =>
      rcases firstAbove_append_eq_some.1 above with inFirst | ⟨inFirst, inSecond⟩
      · exact (ih₁ inFirst).imp_right (.first second)
      · exact (ih₂ inSecond).imp_right (.second (reads.reads inFirst))
  | element phrase _ ih => exact (ih above).imp_right (.element phrase)
  | yes no seen _ ih => exact (ih above).imp_right (.yes no seen)
  | no yes unseen _ ih => exact (ih above).imp_right (.no yes unseen)
  | more seen reads _ ih₁ ih₂ =>
      rcases firstAbove_append_eq_some.1 above with inFirst | ⟨inFirst, inSecond⟩
      · exact (ih₁ inFirst).imp_right (.round seen)
      · exact (ih₂ inSecond).imp_right (.later seen (reads.reads inFirst))
  | @nested depth phrase s _ _ _ _ ih =>
      cases levels with
      | zero =>
          -- no level is left, so this opening is the one
          rw [firstAbove_cons_zero] at above
          obtain rfl := Option.some.inj above
          exact ⟨rfl, .tooDeep phrase s⟩
      | succ levels =>
          rw [firstAbove_cons_succ] at above
          obtain ⟨exceeds, fails⟩ := ih above
          exact ⟨by omega, .nested fails⟩

/-- A failing run that no opening takes above the limit is one with the limit. -/
theorem FailsFreely.fails {failure : Failure} (h : FailsFreely depth rule s openings failure)
    (shallow : firstAbove (depth + levels) openings = none) : Fails levels rule s failure := by
  induction h generalizing levels with
  | cut _ admitted => exact .cut _ admitted
  | missing _ unseen => exact .missing _ unseen
  | refuse _ terminal s => exact .refuse _ terminal s
  | first second _ ih => exact .first second (ih shallow)
  | second reads _ ih =>
      obtain ⟨inFirst, inSecond⟩ := firstAbove_append_eq_none.1 shallow
      exact .second (reads.reads inFirst) (ih inSecond)
  | element phrase _ ih => exact .element phrase (ih shallow)
  | yes no seen _ ih => exact .yes no seen (ih shallow)
  | no yes unseen _ ih => exact .no yes unseen (ih shallow)
  | round seen _ ih => exact .round seen (ih shallow)
  | later seen reads _ ih =>
      obtain ⟨inFirst, inSecond⟩ := firstAbove_append_eq_none.1 shallow
      exact .later seen (reads.reads inFirst) (ih inSecond)
  | nested _ ih =>
      cases levels with
      | zero =>
          rw [firstAbove_cons_zero] at shallow
          cases shallow
      | succ levels => exact .nested (ih (firstAbove_cons_succ .. ▸ shallow))

/-- A failing run that some opening takes above the limit is cut off there, with the limit. -/
theorem FailsFreely.tooDeep {failure : Failure} (h : FailsFreely depth rule s openings failure)
    {opening : Opening} (above : firstAbove (depth + levels) openings = some opening) :
    opening.depth = depth + levels + 1 ∧ Fails levels rule s ⟨.nestingTooDeep, opening.ahead⟩ := by
  induction h generalizing levels with
  | cut | missing | refuse => cases above
  | first second _ ih => exact (ih above).imp_right (.first second)
  | @second _ _ second _ _ _ _ _ _ reads _ ih =>
      rcases firstAbove_append_eq_some.1 above with inFirst | ⟨inFirst, inSecond⟩
      · exact (reads.tooDeep inFirst).imp_right (.first second)
      · exact (ih inSecond).imp_right (.second (reads.reads inFirst))
  | element phrase _ ih => exact (ih above).imp_right (.element phrase)
  | yes no seen _ ih => exact (ih above).imp_right (.yes no seen)
  | no yes unseen _ ih => exact (ih above).imp_right (.no yes unseen)
  | round seen _ ih => exact (ih above).imp_right (.round seen)
  | later seen reads _ ih =>
      rcases firstAbove_append_eq_some.1 above with inFirst | ⟨inFirst, inSecond⟩
      · exact (reads.tooDeep inFirst).imp_right (.round seen)
      · exact (ih inSecond).imp_right (.later seen (reads.reads inFirst))
  | @nested depth phrase s _ _ _ ih =>
      cases levels with
      | zero =>
          rw [firstAbove_cons_zero] at above
          obtain rfl := Option.some.inj above
          exact ⟨rfl, .tooDeep phrase s⟩
      | succ levels =>
          rw [firstAbove_cons_succ] at above
          obtain ⟨exceeds, fails⟩ := ih above
          exact ⟨by omega, .nested fails⟩

end Limited

/-! ### There is a run without a limit -/

/-- Whether recursive phrases are entered only behind a token of the rule. -/
def isGuarded : Rule → Bool
  | .empty => true
  | .token _ => true
  | .refuse _ => true
  | .seq first second => first.isGuarded && (!first.isNullable || second.isGuarded)
  | .element _ body => body.isGuarded
  | .branch _ yes no => yes.isGuarded && no.isGuarded
  | .loop _ body => body.isGuarded
  | .nested _ => false

end Rule

theorem Grammar.isGuarded_body (phrase : Recursive) : (body phrase).isGuarded = true := by
  cases phrase <;> rfl

namespace Rule

section Levels

variable {levels : Nat} {rule : Rule} {s s' : Scan}

theorem Reads.length_le {row : List Tree} (h : Reads levels rule s row s') :
    s'.tokens.length ≤ s.tokens.length := by
  obtain ⟨passed, rfl, -⟩ := h.consumes
  simp

/-- Every level costs a token: nesting is too deep only where as many tokens have been consumed as
levels were allowed, and one more if the rule is guarded. -/
theorem Fails.levels_le {failure : Failure} (h : Fails levels rule s failure)
    (deep : failure.fault = .nestingTooDeep) :
    levels + failure.ahead.tokens.length ≤ s.tokens.length ∧
      (rule.isGuarded = true → levels + failure.ahead.tokens.length < s.tokens.length) := by
  induction h with
  | cut | missing | refuse => cases deep
  | first second _ ih =>
      refine ⟨(ih deep).1, fun guarded => ?_⟩
      rw [isGuarded, Bool.and_eq_true] at guarded
      exact (ih deep).2 guarded.1
  | @second _ first _ _ _ _ _ reads _ ih =>
      obtain ⟨le, lt⟩ := ih deep
      have shrinks := reads.length_le
      refine ⟨by omega, fun guarded => ?_⟩
      simp only [isGuarded, Bool.and_eq_true, Bool.or_eq_true, Bool.not_eq_true'] at guarded
      -- the first part reads a token, or else the second one has to be guarded itself
      rcases guarded.2 with solid | guarded
      · have consumes := reads.length_lt solid
        omega
      · have inside := lt guarded
        omega
  | element phrase _ ih => exact ih deep
  | yes no _ _ ih =>
      refine ⟨(ih deep).1, fun guarded => ?_⟩
      rw [isGuarded, Bool.and_eq_true] at guarded
      exact (ih deep).2 guarded.1
  | no yes _ _ ih =>
      refine ⟨(ih deep).1, fun guarded => ?_⟩
      rw [isGuarded, Bool.and_eq_true] at guarded
      exact (ih deep).2 guarded.2
  | round _ _ ih => exact ih deep
  | later _ reads _ ih =>
      obtain ⟨le, lt⟩ := ih deep
      have shrinks := reads.length_le
      refine ⟨by omega, fun guarded => ?_⟩
      have inside := lt guarded
      omega
  | tooDeep phrase s => exact ⟨by simp, Bool.noConfusion⟩
  | @nested _ phrase _ _ _ ih =>
      have inside := (ih deep).2 (Grammar.isGuarded_body phrase)
      exact ⟨by omega, Bool.noConfusion⟩

/-- A successful run with a limit is one without. -/
theorem Reads.readsFreely {row : List Tree} (h : Reads levels rule s row s') (depth : Nat) :
    ∃ openings, ReadsFreely depth rule s openings row s' := by
  induction h generalizing depth with
  | empty => exact ⟨[], .empty depth _⟩
  | token _ admitted loaded => exact ⟨[], .token depth admitted loaded⟩
  | seq _ _ ih₁ ih₂ =>
      obtain ⟨openings₁, run₁⟩ := ih₁ depth
      obtain ⟨openings₂, run₂⟩ := ih₂ depth
      exact ⟨_, .seq run₁ run₂⟩
  | element phrase _ ih =>
      obtain ⟨openings, run⟩ := ih depth
      exact ⟨_, .element phrase run⟩
  | yes no seen _ ih =>
      obtain ⟨openings, run⟩ := ih depth
      exact ⟨_, .yes no seen run⟩
  | no yes unseen _ ih =>
      obtain ⟨openings, run⟩ := ih depth
      exact ⟨_, .no yes unseen run⟩
  | done _ body unseen => exact ⟨[], .done depth body unseen⟩
  | more seen _ _ ih₁ ih₂ =>
      obtain ⟨openings₁, run₁⟩ := ih₁ depth
      obtain ⟨openings₂, run₂⟩ := ih₂ depth
      exact ⟨_, .more seen run₁ run₂⟩
  | nested _ ih =>
      obtain ⟨openings, run⟩ := ih (depth + 1)
      exact ⟨_, .nested run⟩

/-- A failing run with a limit is one without, if it is not the limit that makes it fail. -/
theorem Fails.failsFreely {failure : Failure} (h : Fails levels rule s failure)
    (shallow : failure.fault ≠ .nestingTooDeep) (depth : Nat) :
    ∃ openings, FailsFreely depth rule s openings failure := by
  induction h generalizing depth with
  | cut _ admitted => exact ⟨[], .cut depth admitted⟩
  | missing _ unseen => exact ⟨[], .missing depth unseen⟩
  | refuse _ terminal s => exact ⟨[], .refuse depth terminal s⟩
  | first second _ ih =>
      obtain ⟨openings, run⟩ := ih shallow depth
      exact ⟨_, .first second run⟩
  | second reads _ ih =>
      obtain ⟨openings₁, run₁⟩ := reads.readsFreely depth
      obtain ⟨openings₂, run₂⟩ := ih shallow depth
      exact ⟨_, .second run₁ run₂⟩
  | element phrase _ ih =>
      obtain ⟨openings, run⟩ := ih shallow depth
      exact ⟨_, .element phrase run⟩
  | yes no seen _ ih =>
      obtain ⟨openings, run⟩ := ih shallow depth
      exact ⟨_, .yes no seen run⟩
  | no yes unseen _ ih =>
      obtain ⟨openings, run⟩ := ih shallow depth
      exact ⟨_, .no yes unseen run⟩
  | round seen _ ih =>
      obtain ⟨openings, run⟩ := ih shallow depth
      exact ⟨_, .round seen run⟩
  | later seen reads _ ih =>
      obtain ⟨openings₁, run₁⟩ := reads.readsFreely depth
      obtain ⟨openings₂, run₂⟩ := ih shallow depth
      exact ⟨_, .later seen run₁ run₂⟩
  | tooDeep => exact absurd rfl shallow
  | nested _ ih =>
      obtain ⟨openings, run⟩ := ih shallow (depth + 1)
      exact ⟨_, .nested run⟩

end Levels

end Rule

end JackSyntax
