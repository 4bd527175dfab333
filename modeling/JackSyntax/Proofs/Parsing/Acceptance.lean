/-
**What is accepted, and what comes out.**

The reader, the rules and the reference grammar are put together here: a source is accepted exactly
when its tokens are the leaves of a derivation tree of a class that is not nested too deeply, and
what comes out is the text of that tree.

Main definitions:

* `Scan.IsComplete` — the source of a scan ends properly.

Main results:

* `Scan.readClass_eq_ok_iff` — the reader accepts exactly the classes, at any limit of nesting;
* `tokenize_eq_ok_iff` — the tokens of a source that ends properly;
* `parse_eq_ok_iff_derivation` — **the parser accepts exactly the grammar and emits the right
  tree**.
-/

import JackSyntax.Parse
import JackSyntax.Proofs.Grammar.Agreement
import JackSyntax.Proofs.Markup.Layout
import JackSyntax.Proofs.Reading.Completeness

set_option relaxedAutoImplicit false
set_option autoImplicit false

namespace JackSyntax

open JackSyntax.Tree

/-- The tokens of the scan end with the source, not with an error. -/
def Scan.IsComplete (s : Scan) : Prop := ∃ line, s.ending = .atEnd line

/-- The tokens of a source are those of its scan, if the scan is complete. -/
theorem tokenize_eq_ok_iff (source : String) (tokens : List Token) :
    tokenize source = .ok tokens ↔
      (scan source).IsComplete ∧ (scan source).tokens.map Located.item = tokens := by
  unfold tokenize Scan.result Scan.IsComplete
  cases (scan source).ending <;> simp

namespace Scan

variable {levels : Nat} {s : Scan}

/-- What happens when a class is read: the first token may be missing for a lexical error, the rule
of a class is read or fails, and then nothing may be left. -/
theorem readClass_of_reads {row : List Tree} {s' : Scan} (loaded : s.Loaded)
    (reads : Rule.Reads levels Grammar.classBody s row s') :
    s.readClass levels =
      if s'.lookahead.isSome then .error ⟨.unexpected .endOfInput s'.lookahead, s'⟩
      else .ok (.node .classDec row) := by
  have answer := reads.read Grammar.isPredictive_classBody []
  unfold readClass
  rw [load_eq_ok loaded]
  simp only [bind, Except.bind, answer]
  simp

theorem readClass_of_fails {failure : Failure} (loaded : s.Loaded)
    (fails : Rule.Fails levels Grammar.classBody s failure) :
    s.readClass levels = .error failure := by
  have answer := fails.read Grammar.isPredictive_classBody []
  unfold readClass
  rw [load_eq_ok loaded]
  simp only [bind, Except.bind, answer]

/-- The reading of a class ends in one of four ways. -/
theorem readClass_cases (levels : Nat) (s : Scan) :
    (∃ error, s = ⟨[], .failed error⟩ ∧ s.readClass levels = .error ⟨.lexical error.item, s⟩) ∨
      s.Loaded ∧
        ((∃ failure, Rule.Fails levels Grammar.classBody s failure ∧
            s.readClass levels = .error failure) ∨
          ∃ row s', Rule.Reads levels Grammar.classBody s row s' ∧
            s.readClass levels =
              if s'.lookahead.isSome then .error ⟨.unexpected .endOfInput s'.lookahead, s'⟩
              else .ok (.node .classDec row)) := by
  cases loading : s.load with
  | error failure =>
      obtain ⟨error, empty, rfl⟩ := load_eq_error_iff.1 loading
      exact Or.inl ⟨error, empty, by rw [readClass, loading]; rfl⟩
  | ok s' =>
      obtain ⟨rfl, loaded⟩ := loaded_of_load loading
      refine Or.inr ⟨loaded, ?_⟩
      cases answer : Grammar.classBody.read levels ⟨s', []⟩ with
      | error failure =>
          have fails := (Rule.read_eq_error_iff Grammar.isPredictive_classBody).1 answer
          exact Or.inl ⟨failure, fails, readClass_of_fails loaded fails⟩
      | ok r =>
          obtain ⟨row, -, reads⟩ := (Rule.read_eq_ok_iff Grammar.isPredictive_classBody).1 answer
          exact Or.inr ⟨row, r.ahead, reads, readClass_of_reads loaded reads⟩

theorem lookahead_eq_none_iff : s.lookahead = none ↔ s.tokens = [] := by
  obtain ⟨tokens, ending⟩ := s
  cases tokens <;> simp [lookahead]

theorem lookahead_eq_some {token : Token} (h : s.lookahead = some token) :
    ∃ first rest, s.tokens = first :: rest ∧ first.item = token := by
  obtain ⟨tokens, ending⟩ := s
  cases tokens with
  | nil => cases h
  | cons first rest => exact ⟨first, rest, rfl, Option.some.inj h⟩

/-- The reader accepts a scan exactly when it is complete and its tokens are the leaves of a
derivation tree that nests no deeper than the levels allow. -/
theorem readClass_eq_ok_iff (tree : Tree) : s.readClass levels = .ok tree ↔
    s.IsComplete ∧ Ebnf.Derives (.name .«class») [tree] ∧
      tree.tokens = s.tokens.map Located.item ∧ tree.nesting ≤ levels := by
  constructor
  · intro answer
    rcases readClass_cases levels s with ⟨error, -, failed⟩ | ⟨loaded, ⟨failure, -, failed⟩ |
      ⟨row, s', reads, result⟩⟩
    · rw [failed] at answer
      cases answer
    · rw [failed] at answer
      cases answer
    · rw [result] at answer
      split at answer
      · cases answer
      · rename_i atEnd
        obtain rfl := Except.ok.inj answer
        obtain ⟨derives, nesting⟩ := (agree_classBody levels row).1 reads.describes
        have empty := lookahead_eq_none_iff.1 (by simpa using atEnd)
        obtain ⟨line, ending⟩ := reads.loaded loaded empty
        obtain ⟨passed, rfl, leaves⟩ := reads.consumes
        exact ⟨⟨line, ending⟩, .node rfl derives, by simp [leaves, empty],
          by simpa [Phrase.isRecursive] using nesting⟩
  · rintro ⟨⟨line, ending⟩, derived, leaves, nesting⟩
    obtain ⟨row, derives, same⟩ := (Ebnf.name_iff_of_node .«class» rfl).1 derived
    obtain rfl : tree = .node .classDec row := by simpa using same
    simp only [tokens_node, nesting_node, Phrase.isRecursive, Bool.false_eq_true, if_false,
      Nat.add_zero] at leaves nesting
    have describes := (agree_classBody levels row).2 ⟨derives, nesting⟩
    -- behind the class stands nothing but the end of the source
    have loaded : Loaded ⟨[], s.ending⟩ := fun _ => ⟨line, ending⟩
    have behind : lookaheadKind ⟨[], s.ending⟩ ∈ [none] := List.mem_singleton_self _
    have reads := describes.reads Grammar.isPredictive_classBody leaves loaded behind
    have answer := readClass_of_reads (loaded.prepend s.tokens) reads
    rw [prepend, List.append_nil] at answer
    exact answer

end Scan

/-- What a source is parsed to is the text of the tree that is read from its scan. -/
theorem parse_eq_ok_iff (source text : String) : parse source = .ok text ↔
    ∃ tree, (scan source).readClass maxNesting = .ok tree ∧ text = tree.render := by
  unfold parse parseTree
  cases (scan source).readClass maxNesting with
  | error failure => simp [Except.map, Except.mapError]
  | ok tree => simp [Except.map, Except.mapError, eq_comm]

theorem exists_eq_ok_of_isOk {ε α : Type} {result : Except ε α} (h : result.isOk = true) :
    ∃ answer, result = .ok answer := by
  cases result with
  | error error => cases h
  | ok answer => exact ⟨answer, rfl⟩

/-- **The parser accepts exactly the grammar and emits exactly the right tree.**  A source is
accepted when its tokens are the leaves of a derivation tree of a class in which no more than 128
terms and rows of statements lie inside one another, and the answer is the text of that tree. -/
theorem parse_eq_ok_iff_derivation (source text : String) :
    parse source = .ok text ↔
      ∃ tokens tree, tokenize source = .ok tokens ∧ Ebnf.Derives (.name .«class») [tree] ∧
        tree.tokens = tokens ∧ tree.nesting ≤ 128 ∧ text = unlines (tree.lines 0) := by
  simp only [parse_eq_ok_iff, Scan.readClass_eq_ok_iff, tokenize_eq_ok_iff, render_eq_unlines,
    maxNesting]
  constructor
  · rintro ⟨tree, ⟨complete, derives, leaves, nesting⟩, rfl⟩
    exact ⟨_, tree, ⟨complete, rfl⟩, derives, leaves, nesting, rfl⟩
  · rintro ⟨tokens, tree, ⟨complete, rfl⟩, derives, leaves, nesting, rfl⟩
    exact ⟨tree, ⟨complete, derives, leaves, nesting⟩, rfl⟩

end JackSyntax
