/-
**The reader finds every row that a rule describes.**

The reader never goes back, so it could miss a row by taking a wrong branch or by leaving a loop too
late. It does not: in a predictive rule the class of a branch or a loop is right about every row.
The induction is on the description; what it has to carry is the lookahead behind the row, because
that is what a loop sees when it should stop.

Main definitions:

* `Scan.lookaheadKind` — the kind of the lookahead of a scan.

Main results:

* `Rule.Describes.reads` — **every described row is read**, whatever follows it;
* `Rule.reads_iff` — the runs of a predictive rule are the rows that it describes.
-/

import JackSyntax.Proofs.Reading.Runs

set_option relaxedAutoImplicit false
set_option autoImplicit false

namespace JackSyntax

open JackSyntax.Tree

/-- The kind of the lookahead of a scan. -/
def Scan.lookaheadKind (s : Scan) : Option Kind :=
  JackSyntax.lookaheadKind (s.tokens.map Located.item)

theorem Scan.lookaheadKind_prepend (passed : List (Located Token)) (s : Scan) :
    (s.prepend passed).lookaheadKind =
      JackSyntax.lookaheadKind (passed.map Located.item ++ s.tokens.map Located.item) := by
  simp [Scan.lookaheadKind]

/-- A scan sees a class exactly when the kind of its lookahead belongs to the class. -/
theorem Scan.sees_iff (s : Scan) (terminal : Terminal) :
    s.sees terminal = true ↔ terminal.admitsKind s.lookaheadKind = true := by
  obtain ⟨tokens, ending⟩ := s
  cases tokens with
  | nil => simp [Scan.sees, Scan.lookahead, Scan.lookaheadKind, Terminal.admitsKind]
  | cons token tokens =>
      simp [Scan.sees, Scan.lookahead, Scan.lookaheadKind, terminal.admits_iff]

namespace Rule

/-- Every row that a predictive rule describes is read, if what follows it may stand behind the
rule. -/
theorem Describes.reads {levels : Nat} {rule : Rule} {row : List Tree}
    (h : Describes levels rule row) {follow : List (Option Kind)}
    (predictive : rule.isPredictive follow = true) {passed : List (Located Token)} {s : Scan}
    (leaves : tokensAll row = passed.map Located.item) (loaded : s.Loaded)
    (behind : s.lookaheadKind ∈ follow) : Reads levels rule (s.prepend passed) row s := by
  -- on the description; `passed` and `follow` change with the part of the rule
  induction h generalizing follow passed s with
  | empty =>
      obtain rfl : passed = [] := by simpa using leaves.symm
      exact .empty _ s
  | token _ admitted =>
      obtain ⟨token, rfl, rfl⟩ : ∃ token : Located Token, passed = [token] ∧ token.item = _ := by
        simpa [List.map_eq_singleton_iff] using leaves.symm
      exact .token _ admitted loaded
  | @seq _ first second left right _ h₂ ih₁ ih₂ =>
      simp only [isPredictive, Bool.and_eq_true] at predictive
      rw [tokensAll_append, eq_comm, List.map_eq_append_iff] at leaves
      obtain ⟨before, after, rfl, leaves₁, leaves₂⟩ := leaves
      rw [Scan.prepend_append]
      -- ahead of the second part is its own first leaf, or what follows if it has none
      have between : (s.prepend after).lookaheadKind ∈ second.starts follow := by
        rw [Scan.lookaheadKind_prepend, leaves₂]
        exact h₂.lookahead_mem_starts behind
      exact .seq (ih₁ predictive.1 leaves₁.symm (loaded.prepend after) between)
        (ih₂ predictive.2 leaves₂.symm loaded behind)
  | element phrase _ ih =>
      exact .element phrase (ih predictive (by simpa using leaves) loaded behind)
  | @yes _ terminal _ no row h ih =>
      simp only [isPredictive, Bool.and_eq_true, List.all_eq_true] at predictive
      have ahead := h.lookahead_mem_starts behind
      rw [leaves, ← Scan.lookaheadKind_prepend] at ahead
      have seen := (Scan.sees_iff _ terminal).2 (predictive.1.1.1 _ ahead)
      exact .yes no seen (ih predictive.1.2 leaves loaded behind)
  | @no _ terminal yes _ row h ih =>
      simp only [isPredictive, Bool.and_eq_true, Bool.not_eq_true', List.any_eq_false] at predictive
      have ahead := h.lookahead_mem_starts behind
      rw [leaves, ← Scan.lookaheadKind_prepend] at ahead
      have unseen := mt (Scan.sees_iff _ terminal).1 (predictive.1.1.2 _ ahead)
      exact .no yes (Bool.eq_false_iff.2 unseen) (ih predictive.2 leaves loaded behind)
  | done _ terminal body =>
      simp only [isPredictive, Bool.and_eq_true, Bool.not_eq_true', List.any_eq_false] at predictive
      obtain rfl : passed = [] := by simpa using leaves.symm
      have unseen := mt (Scan.sees_iff s terminal).1 (predictive.1.2 _ behind)
      exact .done _ body (Bool.eq_false_iff.2 unseen)
  | @more _ terminal body left right h₁ h₂ ih₁ ih₂ =>
      have looped := predictive
      simp only [isPredictive, Bool.and_eq_true, Bool.not_eq_true', List.all_eq_true] at predictive
      rw [tokensAll_append, eq_comm, List.map_eq_append_iff] at leaves
      obtain ⟨before, after, rfl, leaves₁, leaves₂⟩ := leaves
      rw [Scan.prepend_append]
      have between : (s.prepend after).lookaheadKind ∈ body.firstKinds.map some ++ follow := by
        rw [Scan.lookaheadKind_prepend, leaves₂]
        exact h₂.lookahead_mem_starts behind
      -- the body is not nullable, so that its lookahead is one of its own first tokens
      have ahead := h₁.lookahead_mem_starts between
      rw [leaves₁.symm, ← Scan.lookaheadKind_prepend] at ahead
      simp only [starts, predictive.1.1.1, Bool.false_eq_true, if_false, List.append_nil] at ahead
      have seen := (Scan.sees_iff _ terminal).2 (predictive.1.1.2 _ ahead)
      exact .more seen (ih₁ predictive.2 leaves₁.symm (loaded.prepend after) between)
        (ih₂ looped leaves₂.symm loaded behind)
  | @nested _ phrase _ _ ih =>
      simp only [isPredictive, List.all_eq_true, List.contains_iff_mem] at predictive
      exact .nested (ih (Grammar.isPredictive_body phrase) leaves loaded (predictive _ behind))

/-- A predictive rule is read as a row exactly when it describes the row and the leaves of the row
are what is ahead, provided that what follows may stand behind the rule. -/
theorem reads_iff {levels : Nat} {rule : Rule} {row : List Tree} {follow : List (Option Kind)}
    (predictive : rule.isPredictive follow = true) {s s' : Scan} (loaded : s'.Loaded)
    (behind : s'.lookaheadKind ∈ follow) :
    Reads levels rule s row s' ↔ Describes levels rule row ∧
      ∃ passed, s = s'.prepend passed ∧ tokensAll row = passed.map Located.item := by
  constructor
  · intro reads
    exact ⟨reads.describes, reads.consumes⟩
  · rintro ⟨describes, passed, rfl, leaves⟩
    exact describes.reads predictive leaves loaded behind

end Rule

end JackSyntax
