/-
**A run depends on what it has seen.**

The reader has seen the tokens that it has consumed and one token more, and it has not looked at
their lines.  So a run goes the same way on any other scan that begins with the same tokens, on
whatever lines, and has the same lookahead behind them, whatever comes later; and since only the
fault of nesting too deeply mentions the levels, it also goes the same way when more levels are
allowed.

Main results:

* `Rule.Reads.congr_ahead`, `Rule.Fails.congr_ahead` — **a run is decided by the consumed tokens and
  the lookahead**;
* `Rule.Fails.loaded` — nothing is found to be missing before the lookahead is known;
* `Rule.Fails.ahead_of_lexical` — a lexical error is reported when every token has been consumed.
-/

import JackSyntax.Proofs.Reading.Runs

set_option relaxedAutoImplicit false
set_option autoImplicit false

namespace JackSyntax

open JackSyntax.Tree

namespace Scan

/-- Behind the same tokens, scans with the same lookahead have the same lookahead. -/
theorem lookahead_prepend {s s' : Scan} (same : s'.lookahead = s.lookahead)
    {passed passed' : List (Located Token)}
    (alike : passed'.map Located.item = passed.map Located.item) :
    (s'.prepend passed').lookahead = (s.prepend passed).lookahead := by
  cases passed with
  | nil =>
      obtain rfl := List.map_eq_nil_iff.1 alike
      exact same
  | cons token passed =>
      obtain ⟨token', passed', rfl, item, -⟩ := List.map_eq_cons_iff.1 alike
      exact congrArg some item

theorem sees_congr {s s' : Scan} (same : s'.lookahead = s.lookahead) (terminal : Terminal) :
    s'.sees terminal = s.sees terminal := by
  rw [sees, sees, same]

/-- Behind the same tokens, scans with the same lookahead see the same. -/
theorem sees_prepend {s s' : Scan} (same : s'.lookahead = s.lookahead)
    {passed passed' : List (Located Token)}
    (alike : passed'.map Located.item = passed.map Located.item) (terminal : Terminal) :
    (s'.prepend passed').sees terminal = (s.prepend passed).sees terminal :=
  sees_congr (lookahead_prepend same alike) terminal

end Scan

namespace Rule

variable {levels levels' : Nat} {rule : Rule} {s : Scan}

/-- A successful run is the same on every scan that agrees up to the lookahead behind it. -/
theorem Reads.congr_ahead {s' : Scan} {row : List Tree} (h : Reads levels rule s row s')
    (le : levels ≤ levels') :
    ∃ passed, s = s'.prepend passed ∧
      ∀ t : Scan, t.Loaded → t.lookahead = s'.lookahead →
        ∀ passed' : List (Located Token), passed'.map Located.item = passed.map Located.item →
          Reads levels' rule (t.prepend passed') row t := by
  induction h generalizing levels' with
  | empty =>
      refine ⟨[], rfl, fun t _ _ passed' alike => ?_⟩
      obtain rfl := List.map_eq_nil_iff.1 alike
      exact .empty _ t
  | @token _ terminal token _ _ admitted =>
      refine ⟨[token], rfl, fun t loaded _ passed' alike => ?_⟩
      obtain ⟨token', rfl, item⟩ := List.map_eq_singleton_iff.1 alike
      rw [← item]
      exact .token _ (item ▸ admitted) loaded
  | seq _ _ ih₁ ih₂ =>
      -- the lookahead behind the first part stands in the second part, or behind it
      obtain ⟨passed₁, rfl, run₁⟩ := ih₁ le
      obtain ⟨passed₂, rfl, run₂⟩ := ih₂ le
      refine ⟨passed₁ ++ passed₂, (Scan.prepend_append ..).symm, fun t loaded same _ alike => ?_⟩
      obtain ⟨before, after, rfl, alike₁, alike₂⟩ :=
        List.map_eq_append_iff.1 (alike.trans List.map_append)
      rw [Scan.prepend_append]
      exact .seq (run₁ _ (loaded.prepend after) (Scan.lookahead_prepend same alike₂) before alike₁)
        (run₂ t loaded same after alike₂)
  | element phrase _ ih =>
      obtain ⟨passed, rfl, run⟩ := ih le
      exact ⟨passed, rfl, fun t loaded same passed' alike =>
        .element phrase (run t loaded same passed' alike)⟩
  | @yes _ terminal _ no _ _ _ seen _ ih =>
      obtain ⟨passed, rfl, run⟩ := ih le
      refine ⟨passed, rfl, fun t loaded same passed' alike => ?_⟩
      refine .yes no ?_ (run t loaded same _ alike)
      rw [Scan.sees_prepend same alike, seen]
  | @no _ terminal yes _ _ _ _ unseen _ ih =>
      obtain ⟨passed, rfl, run⟩ := ih le
      refine ⟨passed, rfl, fun t loaded same passed' alike => ?_⟩
      refine .no yes ?_ (run t loaded same _ alike)
      rw [Scan.sees_prepend same alike, unseen]
  | @done _ terminal body _ unseen =>
      refine ⟨[], rfl, fun t _ same passed' alike => ?_⟩
      obtain rfl := List.map_eq_nil_iff.1 alike
      exact .done _ body ((Scan.sees_congr same terminal).trans unseen)
  | more seen _ _ ih₁ ih₂ =>
      obtain ⟨passed₁, rfl, run₁⟩ := ih₁ le
      obtain ⟨passed₂, rfl, run₂⟩ := ih₂ le
      refine ⟨passed₁ ++ passed₂, (Scan.prepend_append ..).symm, fun t loaded same _ alike => ?_⟩
      obtain ⟨before, after, rfl, alike₁, alike₂⟩ :=
        List.map_eq_append_iff.1 (alike.trans List.map_append)
      have same₂ := Scan.lookahead_prepend same alike₂
      rw [Scan.prepend_append]
      refine .more ?_ (run₁ _ (loaded.prepend after) same₂ before alike₁)
        (run₂ t loaded same after alike₂)
      rw [Scan.sees_prepend same₂ alike₁, seen]
  | nested _ ih =>
      obtain ⟨below, rfl⟩ : ∃ below, levels' = below + 1 := ⟨levels' - 1, by omega⟩
      obtain ⟨passed, rfl, run⟩ := ih (Nat.le_of_succ_le_succ le)
      exact ⟨passed, rfl, fun t loaded same passed' alike =>
        .nested (run t loaded same passed' alike)⟩

/-- A run that fails otherwise than by a lexical error fails in the same way on every scan that
agrees up to the lookahead.  More levels may be allowed if they are not what is missing. -/
theorem Fails.congr_ahead {failure : Failure} (h : Fails levels rule s failure)
    (le : levels ≤ levels') (deep : failure.fault = .nestingTooDeep → levels' = levels) :
    ∃ passed, s = failure.ahead.prepend passed ∧
      ((∀ fault, failure.fault ≠ .lexical fault) →
        ∀ t : Scan, t.Loaded → t.lookahead = failure.ahead.lookahead →
          ∀ passed' : List (Located Token), passed'.map Located.item = passed.map Located.item →
            Fails levels' rule (t.prepend passed') ⟨failure.fault, t⟩) := by
  induction h generalizing levels' with
  -- a token that is cut off by a lexical error is the one failure that looks further
  | @cut _ _ token _ _ => exact ⟨[token], rfl, fun other => absurd rfl (other _)⟩
  | missing _ unseen =>
      refine ⟨[], rfl, fun _ t _ same passed' alike => ?_⟩
      obtain rfl := List.map_eq_nil_iff.1 alike
      rw [← same]
      exact .missing _ ((Scan.sees_congr same _).trans unseen)
  | refuse _ terminal s =>
      refine ⟨[], rfl, fun _ t _ same passed' alike => ?_⟩
      obtain rfl := List.map_eq_nil_iff.1 alike
      rw [← same]
      exact .refuse _ terminal t
  | first second _ ih =>
      obtain ⟨passed, rfl, run⟩ := ih le deep
      exact ⟨passed, rfl, fun other t loaded same passed' alike =>
        .first second (run other t loaded same passed' alike)⟩
  | second reads _ ih =>
      obtain ⟨passed₁, rfl, run₁⟩ := reads.congr_ahead le
      obtain ⟨passed₂, rfl, run₂⟩ := ih le deep
      refine ⟨passed₁ ++ passed₂, (Scan.prepend_append ..).symm,
        fun other t loaded same _ alike => ?_⟩
      obtain ⟨before, after, rfl, alike₁, alike₂⟩ :=
        List.map_eq_append_iff.1 (alike.trans List.map_append)
      rw [Scan.prepend_append]
      exact .second
        (run₁ _ (loaded.prepend after) (Scan.lookahead_prepend same alike₂) before alike₁)
        (run₂ other t loaded same after alike₂)
  | element phrase _ ih =>
      obtain ⟨passed, rfl, run⟩ := ih le deep
      exact ⟨passed, rfl, fun other t loaded same passed' alike =>
        .element phrase (run other t loaded same passed' alike)⟩
  | @yes _ terminal _ no _ _ seen _ ih =>
      obtain ⟨passed, rfl, run⟩ := ih le deep
      refine ⟨passed, rfl, fun other t loaded same passed' alike =>
        .yes no ?_ (run other t loaded same passed' alike)⟩
      rw [Scan.sees_prepend same alike, seen]
  | @no _ terminal yes _ _ _ unseen _ ih =>
      obtain ⟨passed, rfl, run⟩ := ih le deep
      refine ⟨passed, rfl, fun other t loaded same passed' alike =>
        .no yes ?_ (run other t loaded same passed' alike)⟩
      rw [Scan.sees_prepend same alike, unseen]
  | round seen _ ih =>
      obtain ⟨passed, rfl, run⟩ := ih le deep
      refine ⟨passed, rfl, fun other t loaded same passed' alike =>
        .round ?_ (run other t loaded same passed' alike)⟩
      rw [Scan.sees_prepend same alike, seen]
  | later seen reads _ ih =>
      obtain ⟨passed₁, rfl, run₁⟩ := reads.congr_ahead le
      obtain ⟨passed₂, rfl, run₂⟩ := ih le deep
      refine ⟨passed₁ ++ passed₂, (Scan.prepend_append ..).symm,
        fun other t loaded same _ alike => ?_⟩
      obtain ⟨before, after, rfl, alike₁, alike₂⟩ :=
        List.map_eq_append_iff.1 (alike.trans List.map_append)
      have same₂ := Scan.lookahead_prepend same alike₂
      rw [Scan.prepend_append]
      refine .later ?_ (run₁ _ (loaded.prepend after) same₂ before alike₁)
        (run₂ other t loaded same after alike₂)
      rw [Scan.sees_prepend same₂ alike₁, seen]
  | tooDeep phrase s =>
      obtain rfl : levels' = 0 := deep rfl
      refine ⟨[], rfl, fun _ t _ _ passed' alike => ?_⟩
      obtain rfl := List.map_eq_nil_iff.1 alike
      exact .tooDeep phrase t
  | nested _ ih =>
      obtain ⟨below, rfl⟩ : ∃ below, levels' = below + 1 := ⟨levels' - 1, by omega⟩
      obtain ⟨passed, rfl, run⟩ :=
        ih (Nat.le_of_succ_le_succ le) fun fault => Nat.succ_injective (deep fault)
      exact ⟨passed, rfl, fun other t loaded same passed' alike =>
        .nested (run other t loaded same passed' alike)⟩

/-- A fault other than a lexical one arises with a known lookahead. -/
theorem Fails.loaded {failure : Failure} (h : Fails levels rule s failure) (before : s.Loaded)
    (other : ∀ fault, failure.fault ≠ .lexical fault) : failure.ahead.Loaded := by
  induction h with
  | cut => exact absurd rfl (other _)
  | missing | refuse | tooDeep => exact before
  | first _ _ ih | element _ _ ih | yes _ _ _ ih | no _ _ _ ih | round _ _ ih | nested _ ih =>
      exact ih before other
  | second reads _ ih | later _ reads _ ih => exact ih (reads.loaded before) other

/-- What is reported as found is the lookahead. -/
theorem Fails.found {failure : Failure} (h : Fails levels rule s failure) {expected : Expected}
    {found : Option Token} (fault : failure.fault = .unexpected expected found) :
    found = failure.ahead.lookahead := by
  induction h with
  | cut | tooDeep => cases fault
  | missing | refuse =>
      cases fault
      rfl
  | first _ _ ih | element _ _ ih | yes _ _ _ ih | no _ _ _ ih | round _ _ ih | nested _ ih
  | second _ _ ih | later _ _ _ ih => exact ih fault

/-- Inside a rule the end of the source is never asked for. -/
theorem Fails.expected_ne {failure : Failure} (h : Fails levels rule s failure)
    {expected : Expected} {found : Option Token}
    (fault : failure.fault = .unexpected expected found) :
    expected ≠ .endOfInput := by
  induction h with
  | cut | tooDeep => cases fault
  | @missing _ terminal | refuse _ terminal =>
      cases fault
      cases terminal <;> exact Expected.noConfusion
  | first _ _ ih | element _ _ ih | yes _ _ _ ih | no _ _ _ ih | round _ _ ih | nested _ ih
  | second _ _ ih | later _ _ _ ih => exact ih fault

/-- A lexical error is reported behind the last token. -/
theorem Fails.ahead_of_lexical {failure : Failure} (h : Fails levels rule s failure)
    {fault : LexFault} (lexical : failure.fault = .lexical fault) :
    ∃ error : LexError, failure.ahead = ⟨[], .failed error⟩ ∧ fault = error.item := by
  induction h with
  | cut =>
      cases lexical
      exact ⟨_, rfl, rfl⟩
  | missing | refuse | tooDeep => cases lexical
  | first _ _ ih | element _ _ ih | yes _ _ _ ih | no _ _ _ ih | round _ _ ih | nested _ ih
  | second _ _ ih | later _ _ _ ih => exact ih lexical

end Rule

end JackSyntax
