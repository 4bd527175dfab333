/-
**Errors are reported at the first possible token.**

A reader that never goes back can report an error too late, when it has already consumed a token
with which no class can go on, or too early, when the token it stops at would have been fine.  This
one does neither: the consumed tokens can be continued to a class, with the token it stops at they
no longer can, and with any token that it asks for they can.

That it is not too early is `Rule.Fails.viable`.  That it is not too late follows from completeness:
a class that went on with the offending token would be accepted, but the reader, which has seen
nothing beyond that token, fails on it as before.

Main results:

* `Scan.readClass_congr_ahead` — something missing from a class is missing whatever follows the
  lookahead;
* `Scan.isViablePrefix_of_error` — what has been consumed can be continued to a class;
* `Scan.not_isViablePrefix_of_unexpected` — with the lookahead it cannot;
* `parse_error_at_first_possible_token` — **the correct-prefix property of the parser**.
-/

import Mathlib.Control.Monad.Basic
import JackSyntax.Proofs.Parsing.Acceptance
import JackSyntax.Proofs.Reading.Locality
import JackSyntax.Proofs.Reading.Viability

set_option relaxedAutoImplicit false
set_option autoImplicit false

namespace JackSyntax

open JackSyntax.Tree

/-! ### Sentences and the rule of a class -/

/-- The sentences are the token sequences of the rule of a class. -/
theorem isSentence_iff (tokens : List Token) :
    IsSentence tokens ↔ Grammar.classBody.Yields tokens := by
  constructor
  · rintro ⟨tree, derived, leaves⟩
    obtain ⟨row, derives, same⟩ := (Ebnf.name_iff_of_node .«class» rfl).1 derived
    obtain rfl : tree = .node .classDec row := by simpa using same
    exact ⟨nestingAll row, row, (agree_classBody _ row).2 ⟨derives, Nat.le_refl _⟩,
      by simpa using leaves⟩
  · rintro ⟨levels, row, describes, leaves⟩
    have derives := ((agree_classBody levels row).1 describes).1
    exact ⟨.node .classDec row, .node rfl derives, by simpa using leaves⟩

theorem isViablePrefix_iff (tokens : List Token) :
    IsViablePrefix tokens ↔ ∃ rest, Grammar.classBody.Yields (tokens ++ rest) := by
  simp only [IsViablePrefix, isSentence_iff]

theorem IsViablePrefix.of_append {tokens rest : List Token} (h : IsViablePrefix (tokens ++ rest)) :
    IsViablePrefix tokens := by
  obtain ⟨more, sentence⟩ := h
  exact ⟨rest ++ more, by simpa using sentence⟩

/-- A sentence is read from any complete scan of it, if enough levels are allowed. -/
theorem IsSentence.readClass {tokens : List Token} (h : IsSentence tokens) (levels : Nat) {s : Scan}
    (complete : s.IsComplete) (same : s.tokens.map Located.item = tokens) :
    ∃ levels' tree, levels ≤ levels' ∧ s.readClass levels' = .ok tree := by
  obtain ⟨tree, derives, leaves⟩ := h
  refine ⟨max levels tree.nesting, tree, Nat.le_max_left .., ?_⟩
  exact (Scan.readClass_eq_ok_iff tree).2
    ⟨complete, derives, leaves.trans same.symm, Nat.le_max_right ..⟩

/-! ### Failures of a class -/

namespace Scan

variable {levels levels' : Nat} {s : Scan} {failure : Failure}

/-- A class is not read because the first token is none, because its rule fails, or because
something follows it. -/
theorem readClass_error_cases (h : s.readClass levels = .error failure) :
    (∃ error, s = ⟨[], .failed error⟩ ∧ failure = ⟨.lexical error.item, s⟩) ∨
      s.Loaded ∧ (Rule.Fails levels Grammar.classBody s failure ∨
        ∃ row token, Rule.Reads levels Grammar.classBody s row failure.ahead ∧
          failure.ahead.lookahead = some token ∧
          failure.fault = .unexpected .endOfInput (some token)) := by
  rcases readClass_cases levels s with ⟨error, empty, answer⟩ | ⟨loaded, ⟨failure', fails, answer⟩ |
    ⟨row, s', reads, answer⟩⟩
  · rw [h] at answer
    exact Or.inl ⟨error, empty, Except.error.inj answer⟩
  · rw [h] at answer
    cases answer
    exact Or.inr ⟨loaded, Or.inl fails⟩
  · rw [h] at answer
    split at answer
    · rename_i more
      cases answer
      obtain ⟨token, ahead⟩ := Option.isSome_iff_exists.1 more
      exact Or.inr ⟨loaded, Or.inr ⟨row, token, reads, ahead, by rw [ahead]⟩⟩
    · cases answer

/-- A class that fails otherwise than by a lexical error fails in the same way on every scan that
agrees up to the lookahead.  More levels may be allowed if they are not what is missing. -/
theorem readClass_congr_seen (h : s.readClass levels = .error failure)
    (other : ∀ fault, failure.fault ≠ .lexical fault) (le : levels ≤ levels')
    (deep : failure.fault = .nestingTooDeep → levels' = levels) :
    ∃ passed, s = failure.ahead.prepend passed ∧ failure.ahead.Loaded ∧
      ∀ t : Scan, t.Loaded → t.lookahead = failure.ahead.lookahead →
        ∀ passed' : List (Located Token), passed'.map Located.item = passed.map Located.item →
          (t.prepend passed').readClass levels' = .error ⟨failure.fault, t⟩ := by
  rcases readClass_error_cases h with ⟨error, -, rfl⟩ | ⟨loaded, fails |
    ⟨row, token, reads, more, fault⟩⟩
  · exact absurd rfl (other _)
  · obtain ⟨passed, rfl, run⟩ := fails.congr_ahead le deep
    refine ⟨passed, rfl, fails.loaded loaded other, fun t loaded' same passed' alike => ?_⟩
    exact readClass_of_fails (loaded'.prepend passed') (run other t loaded' same passed' alike)
  · obtain ⟨passed, rfl, run⟩ := reads.congr_ahead le
    refine ⟨passed, rfl, reads.loaded loaded, fun t loaded' same passed' alike => ?_⟩
    have again := run t loaded' same passed' alike
    rw [readClass_of_reads (loaded'.prepend passed') again, same, more, fault]
    rfl

/-- What is reported as found is the lookahead. -/
theorem readClass_found {expected : Expected} {found : Option Token} {ahead : Scan}
    (h : s.readClass levels = .error ⟨.unexpected expected found, ahead⟩) :
    found = ahead.lookahead := by
  rcases readClass_error_cases h with ⟨error, -, impossible⟩ | ⟨-, fails | ⟨_, _, -, more, fault⟩⟩
  · cases impossible
  · exact fails.found rfl
  · cases fault
    exact more.symm

/-- Something missing is missing whatever follows the lookahead, and however many levels are
allowed. -/
theorem readClass_congr_ahead {expected : Expected} {found : Option Token} {ahead : Scan}
    (h : s.readClass levels = .error ⟨.unexpected expected found, ahead⟩) (le : levels ≤ levels') :
    ∃ passed, s = ahead.prepend passed ∧ ahead.Loaded ∧ found = ahead.lookahead ∧
      ∀ t : Scan, t.Loaded → t.lookahead = ahead.lookahead →
        (t.prepend passed).readClass levels' = .error ⟨.unexpected expected found, t⟩ := by
  obtain ⟨passed, whole, loaded, run⟩ :=
    readClass_congr_seen h (fun _ => Fault.noConfusion) le Fault.noConfusion
  exact ⟨passed, whole, loaded, readClass_found h, fun t loaded' same => run t loaded' same _ rfl⟩

/-- What has been consumed when a fault arises can be continued to a class. -/
theorem isViablePrefix_of_error (h : s.readClass levels = .error failure) :
    ∃ passed, s = failure.ahead.prepend passed ∧ IsViablePrefix (passed.map Located.item) ∧
      ∀ expected found, failure.fault = .unexpected expected found →
        (∀ e, expected.construct? = some e → ∀ token, e.Begins token →
          IsViablePrefix (passed.map Located.item ++ [token])) ∧
        (expected = .endOfInput → IsSentence (passed.map Located.item)) := by
  rcases readClass_error_cases h with ⟨error, rfl, rfl⟩ | ⟨loaded, fails |
    ⟨row, token, reads, more, fault⟩⟩
  · obtain ⟨tokens, yields⟩ := Rule.exists_yields Grammar.classBody rfl
    refine ⟨[], rfl, (isViablePrefix_iff _).2 ⟨tokens, yields⟩, ?_⟩
    intro _ _ impossible
    cases impossible
  · obtain ⟨passed, same, viable, next⟩ := fails.viable Grammar.isHonest_classBody knows_none
    refine ⟨passed, same, (isViablePrefix_iff _).2 viable, fun expected found fault => ⟨?_, ?_⟩⟩
    · intro e asked token begins
      obtain ⟨rest, yields⟩ := next expected found fault e asked token begins
      exact (isViablePrefix_iff _).2 ⟨rest, by simpa using yields⟩
    · intro atEnd
      exact absurd atEnd (fails.expected_ne fault)
  · obtain ⟨passed, same, yields⟩ := reads.yields
    have sentence := (isSentence_iff _).2 yields
    refine ⟨passed, same, ⟨[], by simpa using sentence⟩, fun expected found fault' => ⟨?_, ?_⟩⟩
    · intro e asked
      rw [fault] at fault'
      cases fault'
      cases asked
    · intro _
      exact sentence

/-- With the token that was found instead, what has been consumed can no longer be continued. -/
theorem not_isViablePrefix_of_unexpected {expected : Expected} {token : Token} {ahead : Scan}
    {passed : List (Located Token)} (same : s = ahead.prepend passed)
    (h : s.readClass levels = .error ⟨.unexpected expected (some token), ahead⟩) :
    ¬ IsViablePrefix (passed.map Located.item ++ [token]) := by
  rintro ⟨rest, sentence⟩
  -- the same class, on a scan that goes on properly behind the offending token
  let t : Scan := ⟨⟨0, token⟩ :: rest.map (Located.mk 0), .atEnd 0⟩
  have items : (t.prepend passed).tokens.map Located.item =
      passed.map Located.item ++ [token] ++ rest := by
    simp [t, Function.comp_def]
  obtain ⟨levels', tree, le, accepted⟩ := sentence.readClass levels ⟨0, rfl⟩ items
  obtain ⟨passed', same', -, found, run⟩ := readClass_congr_ahead h le
  obtain rfl : passed' = passed := prepend_right_inj.1 (same'.symm.trans same)
  have refused := run t (loaded_cons _ _ _) found
  rw [accepted] at refused
  cases refused

/-- Where the end of the source was found instead, what has been consumed is no class. -/
theorem not_isSentence_of_unexpected {expected : Expected} {ahead : Scan}
    {passed : List (Located Token)} (same : s = ahead.prepend passed)
    (h : s.readClass levels = .error ⟨.unexpected expected none, ahead⟩) :
    s.tokens = passed ∧ s.IsComplete ∧ ¬ IsSentence (passed.map Located.item) := by
  obtain ⟨passed', same', loaded, found, run⟩ := readClass_congr_ahead h (Nat.le_refl levels)
  have empty := lookahead_eq_none_iff.1 found.symm
  obtain ⟨line, ending⟩ := loaded empty
  have complete : s.IsComplete := ⟨line, by rw [same]; exact ending⟩
  have whole : s.tokens = passed := by simp [same, empty]
  refine ⟨whole, complete, fun sentence => ?_⟩
  have items := congrArg (List.map Located.item) whole
  obtain ⟨levels', tree, le, accepted⟩ := sentence.readClass levels complete items
  obtain ⟨passed'', same'', -, -, run'⟩ := readClass_congr_ahead h le
  have refused := run' ahead loaded rfl
  rw [← same'', accepted] at refused
  cases refused

/-- A lexical error of a class is the one that ends its scan. -/
theorem ending_of_lexical {fault : LexFault} {ahead : Scan}
    (h : s.readClass levels = .error ⟨.lexical fault, ahead⟩) :
    s.ending = .failed ⟨ahead.line, fault⟩ ∧ ahead.tokens = [] := by
  rcases readClass_error_cases h with ⟨error, rfl, same⟩ | ⟨-, fails | ⟨_, _, _, _, impossible⟩⟩
  · cases same
    exact ⟨rfl, rfl⟩
  · obtain ⟨error, behind, rfl⟩ := fails.ahead_of_lexical rfl
    obtain ⟨passed, rfl, -⟩ := fails.congr_ahead (Nat.le_refl levels) fun _ => rfl
    cases behind
    exact ⟨rfl, rfl⟩
  · cases impossible

end Scan

/-! ### Errors of the parser -/

theorem tokenize_eq_error_iff (source : String) (error : LexError) :
    tokenize source = .error error ↔ (scan source).ending = .failed error := by
  unfold tokenize Scan.result
  cases (scan source).ending <;> simp

/-- An error of the parser is a failure of the reader on the scan of the source. -/
theorem parse_eq_error_iff (source : String) (error : CompileError) :
    parse source = .error error ↔
      ∃ failure, (scan source).readClass maxNesting = .error failure ∧ failure.error = error := by
  unfold parse parseTree
  cases (scan source).readClass maxNesting <;> simp [Except.map, Except.mapError]

/-- **Errors are reported at the first possible token, with the right cause.**

* Something missing: the consumed tokens are the beginning of a class; followed by the token that
  was found they are not, and where the source ended instead they are no class; followed by any
  token that the missing construct begins with they are again the beginning of a class, and where
  the end of the source was asked for they are a class.
* A lexical error is the one of the tokenizer, and the tokens before it are the beginning of a
  class.
* If the tokens before a lexical error are the beginning of a class and the nesting is not too deep,
  then that lexical error is reported. -/
theorem parse_error_at_first_possible_token (source : String) :
    (∀ line expected found, parse source = .error ⟨line, .unexpected expected found⟩ →
      ∃ passed ahead,
        (scan source).readClass maxNesting = .error ⟨.unexpected expected found, ahead⟩ ∧
        scan source = ahead.prepend passed ∧ ahead.line = line ∧ ahead.lookahead = found ∧
        IsViablePrefix (passed.map Located.item) ∧
        (∀ token, found = some token → ¬ IsViablePrefix (passed.map Located.item ++ [token])) ∧
        (found = none → tokenize source = .ok (passed.map Located.item) ∧
          ¬ IsSentence (passed.map Located.item)) ∧
        (∀ e, expected.construct? = some e → ∀ token, e.Begins token →
          IsViablePrefix (passed.map Located.item ++ [token])) ∧
        (expected = .endOfInput → IsSentence (passed.map Located.item))) ∧
    (∀ line fault, parse source = .error ⟨line, .lexical fault⟩ →
      tokenize source = .error ⟨line, fault⟩ ∧
        IsViablePrefix ((scan source).tokens.map Located.item)) ∧
    (∀ error : LexError, tokenize source = .error error →
      IsViablePrefix ((scan source).tokens.map Located.item) →
      (∀ line, parse source ≠ .error ⟨line, .nestingTooDeep⟩) →
      parse source = .error ⟨error.line, .lexical error.item⟩) := by
  refine ⟨?missing, ?lexical, ?conversely⟩
  case missing =>
    intro line expected found h
    obtain ⟨⟨fault, ahead⟩, failed, same⟩ := (parse_eq_error_iff ..).1 h
    cases same
    obtain ⟨passed, whole, viable, next⟩ := Scan.isViablePrefix_of_error failed
    obtain ⟨passed', -, -, seen, -⟩ := Scan.readClass_congr_ahead failed (Nat.le_refl _)
    obtain ⟨asked, atEnd⟩ := next expected found rfl
    refine ⟨passed, ahead, failed, whole, rfl, seen.symm, viable, ?_, ?_, asked, atEnd⟩
    · rintro token rfl
      exact Scan.not_isViablePrefix_of_unexpected whole failed
    · rintro rfl
      obtain ⟨all, complete, none⟩ := Scan.not_isSentence_of_unexpected whole failed
      exact ⟨(tokenize_eq_ok_iff ..).2 ⟨complete, by rw [all]⟩, none⟩
  case lexical =>
    intro line fault h
    obtain ⟨⟨fault', ahead⟩, failed, same⟩ := (parse_eq_error_iff ..).1 h
    cases same
    obtain ⟨ending, empty⟩ := Scan.ending_of_lexical failed
    obtain ⟨passed, whole, viable, -⟩ := Scan.isViablePrefix_of_error failed
    refine ⟨(tokenize_eq_error_iff ..).2 ending, ?_⟩
    rw [whole, Scan.tokens_prepend, empty, List.append_nil]
    exact viable
  case conversely =>
    intro error h viable shallow
    have ending := (tokenize_eq_error_iff ..).1 h
    cases answer : (scan source).readClass maxNesting with
    | ok tree =>
        obtain ⟨⟨line, atEnd⟩, -⟩ := (Scan.readClass_eq_ok_iff tree).1 answer
        rw [ending] at atEnd
        cases atEnd
    | error failure =>
        refine (parse_eq_error_iff ..).2 ⟨failure, answer, ?_⟩
        obtain ⟨fault, ahead⟩ := failure
        cases fault with
        | lexical fault =>
            have same := (Scan.ending_of_lexical answer).1
            rw [ending, Ending.failed.injEq] at same
            rw [same]
            rfl
        | nestingTooDeep =>
            exact absurd ((parse_eq_error_iff ..).2 ⟨_, answer, rfl⟩) (shallow ahead.line)
        | unexpected expected found =>
            exfalso
            obtain ⟨passed, whole, loaded, seen, -⟩ :=
              Scan.readClass_congr_ahead answer (Nat.le_refl _)
            cases found with
            | none =>
                -- at the end of the tokens stands the lexical error, so nothing is asked for there
                obtain ⟨line, atEnd⟩ := loaded (Scan.lookahead_eq_none_iff.1 seen.symm)
                rw [whole, Scan.ending_prepend, atEnd] at ending
                cases ending
            | some token =>
                obtain ⟨first, rest, split, rfl⟩ := Scan.lookahead_eq_some seen.symm
                refine Scan.not_isViablePrefix_of_unexpected whole answer ?_
                rw [whole, Scan.tokens_prepend, split, List.map_append, List.map_cons,
                  ← List.singleton_append, ← List.append_assoc] at viable
                exact viable.of_append

/-- A number where the name of a class belongs, and a character that begins no token. -/
theorem first_error_behind_class_keyword :
    (parse "class 1" = .error ⟨1, .unexpected .identifier (some (.integerConstant 1))⟩ ∧
      ∃ passed, IsViablePrefix passed ∧ ¬ IsViablePrefix (passed ++ [.integerConstant 1]) ∧
        IsViablePrefix (passed ++ [.identifier "A"])) ∧
    (parse "class #" = .error ⟨1, .lexical (.unexpectedToken "#")⟩ ∧
      tokenize "class #" = .error ⟨1, .unexpectedToken "#"⟩) := by
  have missing : parse "class 1" =
      .error ⟨1, .unexpected .identifier (some (.integerConstant 1))⟩ := by decide +kernel
  have lexical : tokenize "class #" = .error ⟨1, .unexpectedToken "#"⟩ := by decide +kernel
  have refused : parse "class #" = .error ⟨1, .lexical (.unexpectedToken "#")⟩ := by decide +kernel
  refine ⟨⟨missing, ?_⟩, ?_, lexical⟩
  · obtain ⟨passed, -, -, -, -, -, viable, not_viable, -, asked, -⟩ :=
      (parse_error_at_first_possible_token "class 1").1 _ _ _ missing
    have name : Ebnf.identifier.Begins (.identifier "A") :=
      ⟨[.leaf (.identifier "A")], [], .token (.identifier "A"), by simp⟩
    exact ⟨_, viable, not_viable _ rfl, asked _ rfl _ name⟩
  · have viable := ((parse_error_at_first_possible_token "class #").2.1 _ _ refused).2
    refine (parse_error_at_first_possible_token "class #").2.2 _ lexical viable fun line => ?_
    rw [refused]
    simp

end JackSyntax
