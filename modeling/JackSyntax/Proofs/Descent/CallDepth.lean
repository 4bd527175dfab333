/-
**How many productions are active at the same time.**

Productions call each other in circles, so what keeps the calls from piling up is not their order
alone.  But the productions have ranks, and a call goes down in rank unless it stands inside a
recursive phrase: between two phrases that are entered there are never more calls than there are
ranks.  As many phrases as there are levels can be entered, so a number of calls that depends on the
limit of nesting only is enough for every source.

A budget of that size is never used up, whatever the source.  The descent then ends as the reader of
the rules does, and with a larger budget nothing else would be done.

Main definitions:

* `Production.rank` — the rank of a production;
* `deepArguments` — a source in which calls pile up.

Main results:

* `callReads_perform` — **a budget of five calls for each level is enough**, by induction on the
  budget;
* `result_descend` — the descent has the result of the parser;
* `descend_add` — what is done within a budget does not depend on its size;
* `active_calls_are_bounded` — **at most 700 productions are active at the same time**.
-/

import JackSyntax.Proofs.Descent.Moments
import JackSyntax.Proofs.Descent.Rules
import JackSyntax.Proofs.Parsing.Acceptance

set_option relaxedAutoImplicit false
set_option autoImplicit false

namespace JackSyntax

open JackSyntax.Tree
open Production (CallReads BodyReads)

/-! ### Ranks -/

namespace Production

/-- The rank of a production.  The productions that it calls outside of recursive phrases have lower
ranks. -/
def rank : Production → Nat
  | .classDec => 5
  | .subroutineDec => 4
  | .subroutineBody => 3
  | .classVarDec | .varDec => 2
  | .names | .parameterList => 1
  | .doStatement => 5
  | .ifStatement | .whileStatement => 4
  | .letStatement | .returnStatement | .condition => 3
  | .block => 2
  | .statements => 1
  | .nameTail => 5
  | .arguments => 4
  | .expressionList => 3
  | .expression => 2
  | .term => 1

theorem rank_pos (production : Production) : 0 < production.rank := by
  cases production <;> decide

theorem rank_le (production : Production) : production.rank ≤ 5 := by
  cases production <;> decide

end Production

section

variable {call : Production → Descent → Trace} {calls : List Production} {levels : Nat}

/-- A procedure reads along its rule if the productions of lower ranks do so, and with a level less
all productions. -/
theorem bodyReads_of_rank_lt (production : Production)
    (lower : ∀ other, other.rank < production.rank → CallReads call calls levels other)
    (inside : ∀ below, levels = below + 1 → ∀ other, CallReads call calls below other) :
    BodyReads call calls levels production := by
  cases production with
  | classDec =>
      exact bodyReads_classDec (lower .classVarDec (by decide)) (lower .subroutineDec (by decide))
  | classVarDec => exact follows_varDeclaration (lower .names (by decide)) .classVarDec .classVarKind
  | names => exact bodyReads_names
  | subroutineDec =>
      exact bodyReads_subroutineDec (lower .parameterList (by decide))
        (lower .subroutineBody (by decide))
  | parameterList => exact bodyReads_parameterList
  | subroutineBody =>
      exact bodyReads_subroutineBody (lower .varDec (by decide)) (lower .statements (by decide))
  | varDec => exact follows_varDeclaration (lower .names (by decide)) .varDec (.keyword .var)
  | statements => exact bodyReads_statements inside
  | letStatement => exact bodyReads_letStatement (lower .expression (by decide))
  | ifStatement =>
      exact bodyReads_ifStatement (lower .condition (by decide)) (lower .block (by decide))
  | whileStatement =>
      exact bodyReads_whileStatement (lower .condition (by decide)) (lower .block (by decide))
  | condition => exact bodyReads_condition (lower .expression (by decide))
  | block => exact bodyReads_block (lower .statements (by decide))
  | doStatement => exact bodyReads_doStatement (lower .arguments (by decide))
  | returnStatement => exact bodyReads_returnStatement (lower .expression (by decide))
  | expression => exact bodyReads_expression (lower .term (by decide))
  | term => exact bodyReads_term inside
  | nameTail =>
      exact bodyReads_nameTail (lower .expression (by decide)) (lower .arguments (by decide))
  | arguments => exact bodyReads_arguments (lower .expressionList (by decide))
  | expressionList => exact bodyReads_expressionList (lower .expression (by decide))

end

/-! ### Enough calls -/

/-- A budget of five calls for each level that is left, and of as many calls as there are ranks up
to that of the production, is enough to read along its rule. -/
theorem callReads_perform (budget : Nat) (calls : List Production) (levels : Nat)
    (production : Production) (enough : 5 * levels + production.rank ≤ budget) :
    CallReads (Production.perform budget calls) calls levels production := by
  induction budget generalizing calls levels production with
  | zero =>
      have positive := production.rank_pos
      omega
  | succ budget ih =>
      have reads : BodyReads (Production.perform budget (production :: calls))
          (production :: calls) levels production := by
        refine bodyReads_of_rank_lt production (fun other lower => ?_) (fun below less other => ?_)
        · exact ih (production :: calls) levels other (by omega)
        · have positive := production.rank_pos
          have bounded := other.rank_le
          exact ih (production :: calls) below other (by omega)
      intro d room granted
      rw [exit_performAll_singleton]
      exact reads d room granted

/-- A reading of a class is the same in a descent. -/
theorem result_of_answers {s : Scan} {t : Trace} (loaded : s.Loaded)
    (h : Answers maxNesting (.element .classDec Grammar.classBody) ⟨s, 0, .empty⟩ t.exit) :
    t.result = some (((s.readClass maxNesting).mapError Failure.error).map Tree.render) := by
  obtain ⟨moments, exit⟩ := t
  cases exit with
  | gaveUp => exact h.elim
  | failed failure =>
      cases h with
      | element _ fails =>
          rw [Scan.readClass_of_fails loaded fails]
          rfl
  | returned d =>
      obtain ⟨row, -, writer, reads⟩ := h
      cases reads with
      | element _ reads =>
          rw [Scan.readClass_of_reads loaded reads, Trace.result]
          simp only
          split
          · rfl
          · rw [writer]
            rfl

/-- With enough calls a descent has the result of the parser. -/
theorem result_descend {budget : Nat} (enough : 645 ≤ budget) (source : String) :
    (descend budget source).result = some (parse source) := by
  unfold descend parse parseTree
  cases loading : (scan source).load with
  | error failure =>
      rw [Scan.readClass, loading]
      rfl
  | ok ahead =>
      obtain ⟨rfl, loaded⟩ := Scan.loaded_of_load loading
      have reads := callReads_perform budget [] maxNesting .classDec enough
      have answer := reads ⟨scan source, 0, .empty⟩ rfl trivial
      rw [exit_performAll_singleton] at answer
      exact result_of_answers loaded answer

/-! ### More calls than enough -/

namespace Trace

theorem exit_of_andThen_ne_gaveUp {t : Trace} {next : Descent → Trace}
    (h : (t.andThen next).exit ≠ .gaveUp) :
    t.exit ≠ .gaveUp ∧ ∀ d, t.exit = .returned d → (next d).exit ≠ .gaveUp := by
  obtain ⟨moments, exit⟩ := t
  cases exit with
  | returned d => exact ⟨by simp, fun d' same => Exit.returned.inj same ▸ h⟩
  | failed failure => exact ⟨by simp, by simp⟩
  | gaveUp => exact absurd rfl h

/-- What is done in two parts can be replaced part by part, if it does not give up. -/
theorem andThen_congr {t t' : Trace} {next next' : Descent → Trace}
    (h : t.exit ≠ .gaveUp → t' = t)
    (h' : ∀ d, (next d).exit ≠ .gaveUp → next' d = next d)
    (ends : (t.andThen next).exit ≠ .gaveUp) : t'.andThen next' = t.andThen next := by
  obtain ⟨first, later⟩ := exit_of_andThen_ne_gaveUp ends
  rw [h first]
  unfold andThen
  cases exit : t.exit with
  | returned d =>
      simp only
      rw [h' d (later d exit)]
  | failed failure => rfl
  | gaveUp => rfl

theorem repeatWhile_congr {terminal : Terminal} {body body' : Descent → Trace}
    (h : ∀ d, (body d).exit ≠ .gaveUp → body' d = body d) (rounds : List (Located Token))
    (d : Descent) (ends : (repeatWhile terminal body rounds d).exit ≠ .gaveUp) :
    repeatWhile terminal body' rounds d = repeatWhile terminal body rounds d := by
  induction rounds generalizing d with
  | nil => rfl
  | cons _ rounds ih =>
      unfold repeatWhile at ends ⊢
      split
      · rename_i seen
        rw [if_pos seen] at ends
        exact andThen_congr (h d) ih ends
      · rfl

end Trace

section

variable {call call' : Production → Descent → Trace} {calls : List Production}

mutual

/-- Calls that are the same where they do not give up make no difference to an action that does not
give up. -/
theorem perform_congr (same : ∀ production d, (call production d).exit ≠ .gaveUp →
    call' production d = call production d) : (action : Action) → (d : Descent) →
    (action.perform call calls d).exit ≠ .gaveUp →
    action.perform call' calls d = action.perform call calls d
  | .move _ => fun _ _ => rfl
  | .choose terminal yes no => by
      intro d ends
      have chosen : (if d.ahead.sees terminal then Action.performAll call' calls yes d
            else Action.performAll call' calls no d) =
          if d.ahead.sees terminal then Action.performAll call calls yes d
            else Action.performAll call calls no d := by
        rw [Action.perform, Trace.note] at ends
        split
        · rename_i seen
          rw [if_pos seen] at ends
          exact performAll_congr same yes d ends
        · rename_i unseen
          rw [if_neg unseen] at ends
          exact performAll_congr same no d ends
      rw [Action.perform, chosen, ← Action.perform]
  | .loop terminal body => by
      intro d ends
      rw [Action.perform, Trace.repeatWhile_congr (performAll_congr same body) _ d ends,
        ← Action.perform]
  | .call production => by
      intro d ends
      rw [Action.perform, same production d ends, ← Action.perform]

theorem performAll_congr (same : ∀ production d, (call production d).exit ≠ .gaveUp →
    call' production d = call production d) : (actions : List Action) → (d : Descent) →
    (Action.performAll call calls actions d).exit ≠ .gaveUp →
    Action.performAll call' calls actions d = Action.performAll call calls actions d
  | [] => fun _ _ => rfl
  | action :: actions => by
      intro d ends
      exact Trace.andThen_congr (perform_congr same action d) (performAll_congr same actions) ends

end

end

/-- More calls make no difference to a procedure that does not give up. -/
theorem perform_add (extra budget : Nat) (calls : List Production) (production : Production)
    (d : Descent) (ends : (production.perform budget calls d).exit ≠ .gaveUp) :
    production.perform (budget + extra) calls d = production.perform budget calls d := by
  induction budget generalizing calls production d with
  | zero => exact absurd rfl ends
  | succ budget ih =>
      rw [Nat.add_right_comm]
      exact performAll_congr (ih (production :: calls)) production.body d ends

/-- What is done in a descent with enough calls does not depend on how many there are. -/
theorem descend_add {budget : Nat} (enough : 645 ≤ budget) (extra : Nat) (source : String) :
    descend (budget + extra) source = descend budget source := by
  have ends : (descend budget source).exit ≠ .gaveUp := by
    intro impossible
    have answered := result_descend enough source
    rw [Trace.result, impossible] at answered
    cases answered
  unfold descend at ends ⊢
  split
  · rename_i ahead loading
    rw [loading] at ends
    exact perform_congr (perform_add extra budget []) _ _ ends
  · rfl

/-- **The nesting limit bounds the recursion.**  No source, whether it is accepted or not, makes
more than 700 productions active at the same time.  With a budget of so many calls no descent gives
up, and its result is that of the parser; with any larger budget exactly the same is done. -/
theorem active_calls_are_bounded (source : String) :
    (∀ budget, ∀ moment ∈ (descend budget source).moments, moment.calls.length ≤ 700) ∧
      (descend 700 source).result = some (parse source) ∧
      ∀ extra, descend (700 + extra) source = descend 700 source := by
  refine ⟨?bounded, result_descend (by decide) source,
    fun extra => descend_add (by decide) extra source⟩
  case bounded =>
    intro budget moment inside
    rcases Nat.le_total budget 700 with less | more
    · exact Nat.le_trans ((satisfies_descend budget source).1 moment inside).calls less
    · obtain ⟨extra, rfl⟩ := Nat.exists_eq_add_of_le more
      rw [descend_add (by decide) extra source] at inside
      exact ((satisfies_descend 700 source).1 moment inside).calls

/-- A source that breaks off in the arguments of calls which are arguments themselves. -/
def deepArguments (calls : Nat) : String :=
  "class A \x7bfunction void f() \x7bdo " ++
    String.ofList ((List.replicate calls "f(".toList).flatten) ++ "x"

/-- Not many fewer calls would do: here 644 productions are active at the same time, five for each
term that is entered and some around them. -/
theorem deep_arguments_are_bounded :
    ∃ moment ∈ (descend 700 (deepArguments 128)).moments,
      644 ≤ moment.calls.length ∧ moment.calls.length ≤ 700 := by
  have found : (descend 700 (deepArguments 128)).moments.any
      (fun moment => 644 ≤ moment.calls.length) = true := by decide +kernel
  obtain ⟨moment, inside, many⟩ := List.any_eq_true.1 found
  obtain ⟨bounded, -⟩ := active_calls_are_bounded (deepArguments 128)
  exact ⟨moment, inside, of_decide_eq_true many, bounded 700 moment inside⟩

end JackSyntax
