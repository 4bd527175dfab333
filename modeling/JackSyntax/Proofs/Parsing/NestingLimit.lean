/-
**The limit of nesting only cuts off what is too deep.**

The parser is compared with the parser that has no limit and merely keeps count of the terms and
rows of statements that are open.  As long as no more than 128 of them are open, the two give the
same answer; as soon as the unlimited parser opens one more, the limited one stops there.  For a
source that is a class this means that the limit is a matter of its tree: how many terms and rows of
statements lie inside one another decides, and not how many of them stand side by side.

Main definitions:

* `Scan.ReadsClassFreely` — a class is read without a limit;
* `ParsesFreely` — the runs of the parser without a limit.

Main results:

* `Scan.ReadsClassFreely.readClass_eq`, `Scan.ReadsClassFreely.readClass_tooDeep` — what any limit
  makes of a run without one;
* `Scan.exists_readsClassFreely` — there is a run without a limit;
* `Scan.readClass_tooDeep_iff` — a class is refused for its nesting when its tree nests too deeply;
* `parse_eq_unlimited_or_nestingTooDeep` — **the limit only cuts off what is too deep**.
-/

import Mathlib.Algebra.Order.BigOperators.Group.List
import Mathlib.Algebra.Order.Group.Nat
import JackSyntax.Proofs.Parsing.FirstError
import JackSyntax.Proofs.Reading.Unlimited

set_option relaxedAutoImplicit false
set_option autoImplicit false

namespace JackSyntax

open JackSyntax.Tree

/-! ### The parser without a limit -/

/-- `ReadsClassFreely s openings answer`: without a limit of nesting, reading a scan as one class
ends with the answer, and on the way the recursive phrases of `openings` are opened. -/
inductive Scan.ReadsClassFreely : Scan → List Opening → Except Failure Tree → Prop
  /-- The first token cannot be loaded. -/
  | cut (error : LexError) :
      ReadsClassFreely ⟨[], .failed error⟩ []
        (.error ⟨.lexical error.item, ⟨[], .failed error⟩⟩)
  /-- The class is not read to its end. -/
  | fails {s : Scan} {openings : List Opening} {failure : Failure} :
      s.Loaded → Rule.FailsFreely 0 Grammar.classBody s openings failure →
      ReadsClassFreely s openings (.error failure)
  /-- The class is read, and nothing may follow it. -/
  | reads {s s' : Scan} {openings : List Opening} {row : List Tree} :
      s.Loaded → Rule.ReadsFreely 0 Grammar.classBody s openings row s' →
      ReadsClassFreely s openings
        (if s'.lookahead.isSome then .error ⟨.unexpected .endOfInput s'.lookahead, s'⟩
          else .ok (.node .classDec row))

/-- `ParsesFreely source openings result`: the parser without a limit of nesting gives the result
for the source, and on the way it opens the recursive phrases of `openings`. -/
def ParsesFreely (source : String) (openings : List Opening)
    (result : Except CompileError String) : Prop :=
  ∃ answer, (scan source).ReadsClassFreely openings answer ∧
    result = (answer.mapError Failure.error).map Tree.render

namespace Scan

variable {levels : Nat} {s : Scan} {openings : List Opening} {answer answer' : Except Failure Tree}

/-- A limit that no opening exceeds makes no difference. -/
theorem ReadsClassFreely.readClass_eq (h : s.ReadsClassFreely openings answer)
    (shallow : Rule.firstAbove levels openings = none) : s.readClass levels = answer := by
  rw [← Nat.zero_add levels] at shallow
  cases h with
  | cut error => rfl
  | fails loaded fails => exact readClass_of_fails loaded (fails.fails shallow)
  | reads loaded reads => exact readClass_of_reads loaded (reads.reads shallow)

/-- Any other limit makes the reading fail at the first opening that exceeds it. -/
theorem ReadsClassFreely.readClass_tooDeep (h : s.ReadsClassFreely openings answer)
    {opening : Opening} (above : Rule.firstAbove levels openings = some opening) :
    opening.depth = levels + 1 ∧
      s.readClass levels = .error ⟨.nestingTooDeep, opening.ahead⟩ := by
  rw [← Nat.zero_add levels] at above
  cases h with
  | cut error => cases above
  | fails loaded fails =>
      obtain ⟨exceeds, cut⟩ := fails.tooDeep above
      exact ⟨by omega, readClass_of_fails loaded cut⟩
  | reads loaded reads =>
      obtain ⟨exceeds, cut⟩ := reads.tooDeep above
      exact ⟨by omega, readClass_of_fails loaded cut⟩

/-- Without a limit, nesting is never too deep. -/
theorem ReadsClassFreely.fault_ne {failure : Failure}
    (h : s.ReadsClassFreely openings (.error failure)) : failure.fault ≠ .nestingTooDeep := by
  generalize same : Except.error failure = answer at h
  cases h with
  | cut error =>
      cases same
      exact Fault.noConfusion
  | fails _ fails =>
      cases same
      exact fails.fault_ne
  | reads _ _ =>
      split at same
      · cases same
        exact Fault.noConfusion
      · cases same

/-- All runs without a limit end with the same answer. -/
theorem ReadsClassFreely.answer_eq {openings' : List Opening}
    (h : s.ReadsClassFreely openings answer) (h' : s.ReadsClassFreely openings' answer') :
    answer = answer' := by
  -- some limit is exceeded by no opening of either
  let levels := ((openings ++ openings').map Opening.depth).sum
  have le : ∀ opening ∈ openings ++ openings', opening.depth ≤ levels := fun opening listed =>
    List.le_sum_of_mem (List.mem_map_of_mem listed)
  obtain ⟨le₁, le₂⟩ := List.forall_mem_append.1 le
  rw [← h.readClass_eq (Rule.firstAbove_eq_none.2 le₁),
    ← h'.readClass_eq (Rule.firstAbove_eq_none.2 le₂)]

/-- There is a run without a limit: one with more levels than tokens. -/
theorem exists_readsClassFreely (s : Scan) :
    ∃ openings answer, s.ReadsClassFreely openings answer := by
  rcases readClass_cases (s.tokens.length + 1) s with ⟨error, rfl, -⟩ |
    ⟨loaded, ⟨failure, fails, -⟩ | ⟨row, s', reads, -⟩⟩
  · exact ⟨[], _, .cut error⟩
  · have shallow : failure.fault ≠ .nestingTooDeep := by
      intro deep
      have le := (fails.levels_le deep).1
      omega
    obtain ⟨openings, run⟩ := fails.failsFreely shallow 0
    exact ⟨openings, _, .fails loaded run⟩
  · obtain ⟨openings, run⟩ := reads.readsFreely 0
    exact ⟨openings, _, .reads loaded run⟩

/-! ### Classes -/

/-- A class is refused for its nesting exactly when its tree nests more deeply than the levels
allow. -/
theorem readClass_tooDeep_iff {tree : Tree} (derives : Ebnf.Derives (.name .«class») [tree])
    (complete : s.IsComplete) (leaves : tree.tokens = s.tokens.map Located.item) :
    (∃ ahead, s.readClass levels = .error ⟨.nestingTooDeep, ahead⟩) ↔ levels < tree.nesting := by
  have accepted : ∀ levels', tree.nesting ≤ levels' → s.readClass levels' = .ok tree :=
    fun levels' le => (readClass_eq_ok_iff tree).2 ⟨complete, derives, leaves, le⟩
  constructor
  · rintro ⟨ahead, refused⟩
    refine Nat.lt_of_not_le fun le => ?_
    rw [accepted levels le] at refused
    cases refused
  · intro deep
    have whole := accepted tree.nesting (Nat.le_refl _)
    cases answer : s.readClass levels with
    | ok tree' =>
        -- with more levels the same tree would be read, and that is the deep one
        obtain ⟨-, derives', leaves', nesting⟩ := (readClass_eq_ok_iff tree').1 answer
        have again := (readClass_eq_ok_iff tree').2
          ⟨complete, derives', leaves', Nat.le_trans nesting (Nat.le_of_lt deep)⟩
        rw [whole] at again
        obtain rfl := Except.ok.inj again
        omega
    | error failure =>
        obtain ⟨fault, ahead⟩ := failure
        cases fault with
        | nestingTooDeep => exact ⟨ahead, rfl⟩
        | lexical fault =>
            obtain ⟨line, ending⟩ := complete
            rw [(ending_of_lexical answer).1] at ending
            cases ending
        | unexpected expected found =>
            -- what is missing with few levels is missing with many
            obtain ⟨passed, same, loaded, -, run⟩ :=
              readClass_congr_ahead answer (Nat.le_of_lt deep)
            have refused := run ahead loaded rfl
            rw [← same, whole] at refused
            cases refused

end Scan

/-- **The limit of nesting only cuts off what is too deep.**

* Without a limit the parser has one result for every source: the one it has with any limit that is
  not exceeded.
* If on the way to it no more than 128 terms and rows of statements are open at the same time, the
  parser with the limit has the same result.  Otherwise nesting is too deep, and the line is that of
  the lookahead where for the first time 129 of them are open.
* A class is refused for its nesting exactly when more than 128 terms and rows of statements of its
  tree lie inside one another.  Trees that stand side by side do not add up. -/
theorem parse_eq_unlimited_or_nestingTooDeep (source : String) :
    (∃! result, ∃ openings, ParsesFreely source openings result) ∧
    (∀ openings result, ParsesFreely source openings result →
      (∀ line, result ≠ .error ⟨line, .nestingTooDeep⟩) ∧
      (∀ levels, (∀ opening ∈ openings, opening.depth ≤ levels) →
        (parseTree levels source).map Tree.render = result) ∧
      ((∀ opening ∈ openings, opening.depth ≤ 128) → parse source = result) ∧
      ((∃ opening ∈ openings, 128 < opening.depth) →
        ∃ before opening after, openings = before ++ opening :: after ∧
          (∀ earlier ∈ before, earlier.depth ≤ 128) ∧ opening.depth = 129 ∧
          parse source = .error ⟨opening.ahead.line, .nestingTooDeep⟩)) ∧
    (∀ tree, Ebnf.Derives (.name .«class») [tree] → tokenize source = .ok tree.tokens →
      ((∃ line, parse source = .error ⟨line, .nestingTooDeep⟩) ↔ 128 < tree.nesting)) ∧
    (∀ row limit, nestingAll row ≤ limit ↔ ∀ tree ∈ row, tree.nesting ≤ limit) := by
  refine ⟨?unlimited, ?limited, ?classes, nestingAll_le_iff⟩
  case unlimited =>
    obtain ⟨openings, answer, run⟩ := (scan source).exists_readsClassFreely
    refine ⟨_, ⟨openings, answer, run, rfl⟩, ?_⟩
    rintro _ ⟨openings', answer', run', rfl⟩
    rw [run'.answer_eq run]
  case limited =>
    rintro openings _ ⟨answer, run, rfl⟩
    have unexceeded : ∀ levels, (∀ opening ∈ openings, opening.depth ≤ levels) →
        (parseTree levels source).map Tree.render =
          (answer.mapError Failure.error).map Tree.render := by
      intro levels shallow
      rw [parseTree, run.readClass_eq (Rule.firstAbove_eq_none.2 shallow)]
    refine ⟨?free, unexceeded, unexceeded maxNesting, ?deep⟩
    case free =>
      intro line impossible
      cases answer with
      | ok tree => cases impossible
      | error failure =>
          have same := congrArg Located.item (Except.error.inj impossible)
          exact run.fault_ne same
    case deep =>
      rintro ⟨opening, listed, exceeds⟩
      cases above : Rule.firstAbove 128 openings with
      | none =>
          have le := Rule.firstAbove_eq_none.1 above opening listed
          omega
      | some first =>
          obtain ⟨depth, refused⟩ := run.readClass_tooDeep above
          obtain ⟨-, before, after, split, shallow⟩ := List.find?_eq_some_iff_append.1 above
          refine ⟨before, first, after, split, fun earlier inside => ?_, depth, ?_⟩
          · simpa using shallow earlier inside
          · exact (parse_eq_error_iff ..).2 ⟨_, refused, rfl⟩
  case classes =>
    intro tree derives tokens
    obtain ⟨complete, leaves⟩ := (tokenize_eq_ok_iff ..).1 tokens
    rw [← Scan.readClass_tooDeep_iff derives complete leaves.symm]
    constructor
    · rintro ⟨line, refused⟩
      obtain ⟨⟨fault, ahead⟩, answer, same⟩ := (parse_eq_error_iff ..).1 refused
      cases same
      exact ⟨ahead, answer⟩
    · rintro ⟨ahead, answer⟩
      exact ⟨ahead.line, (parse_eq_error_iff ..).2 ⟨_, answer, rfl⟩⟩

/-- A class in which a variable with signs in front of it is returned: a row of statements, and in
it one more term than there are signs. -/
def signedReturn (signs : Nat) : String :=
  "class A \x7bfunction int f() \x7breturn\n" ++ String.ofList (List.replicate signs '-') ++
    "x;\x7d\x7d"

/-- With 127 signs the variable is one level too deep. -/
theorem parse_signedReturn : parse (signedReturn 127) = .error ⟨2, .nestingTooDeep⟩ := by
  decide +kernel

/-- With 126 signs the limit is reached, and with one more it is exceeded. -/
theorem nesting_at_the_limit :
    (∃ openings result, ParsesFreely (signedReturn 126) openings result ∧
      (∀ opening ∈ openings, opening.depth ≤ 128) ∧ parse (signedReturn 126) = result) ∧
    (∃ openings result, ParsesFreely (signedReturn 127) openings result ∧
      (∃ opening ∈ openings, opening.depth = 129 ∧ opening.ahead.line = 2) ∧
      parse (signedReturn 127) = .error ⟨2, .nestingTooDeep⟩) ∧
    (∃ tree, Ebnf.Derives (.name .«class») [tree] ∧
      tokenize (signedReturn 127) = .ok tree.tokens ∧ 128 < tree.nesting) := by
  have accepted : (parse (signedReturn 126)).isOk = true := by decide +kernel
  refine ⟨?shallow, ?deep, ?tree⟩
  case shallow =>
    obtain ⟨result, ⟨openings, run⟩, -⟩ := (parse_eq_unlimited_or_nestingTooDeep _).1
    obtain ⟨-, -, same, cut⟩ := (parse_eq_unlimited_or_nestingTooDeep _).2.1 _ _ run
    have shallow : ∀ opening ∈ openings, opening.depth ≤ 128 := by
      by_contra! deep
      obtain ⟨before, opening, after, -, -, -, cutOff⟩ := cut deep
      rw [cutOff] at accepted
      cases accepted
    exact ⟨openings, result, run, shallow, same shallow⟩
  case deep =>
    obtain ⟨result, ⟨openings, run⟩, -⟩ := (parse_eq_unlimited_or_nestingTooDeep _).1
    obtain ⟨free, -, same, cut⟩ := (parse_eq_unlimited_or_nestingTooDeep _).2.1 _ _ run
    have deep : ∃ opening ∈ openings, 128 < opening.depth := by
      by_contra! shallow
      exact free 2 (same shallow ▸ parse_signedReturn)
    obtain ⟨before, opening, after, rfl, -, depth, cutOff⟩ := cut deep
    have line : 2 = opening.ahead.line := by
      rw [parse_signedReturn] at cutOff
      exact congrArg Located.line (Except.error.inj cutOff)
    exact ⟨_, result, run, ⟨opening, by simp, depth, line.symm⟩, parse_signedReturn⟩
  case tree =>
    obtain ⟨tree, whole⟩ := exists_eq_ok_of_isOk
      (by decide +kernel : ((scan (signedReturn 127)).readClass 129).isOk = true)
    obtain ⟨complete, derives, leaves, -⟩ := (Scan.readClass_eq_ok_iff tree).1 whole
    have tokens := (tokenize_eq_ok_iff ..).2 ⟨complete, leaves.symm⟩
    exact ⟨tree, derives, tokens,
      ((parse_eq_unlimited_or_nestingTooDeep _).2.2.1 tree derives tokens).1
        ⟨2, parse_signedReturn⟩⟩

end JackSyntax
