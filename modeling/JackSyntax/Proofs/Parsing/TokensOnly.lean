/-
**Only the tokens count.**

A source is more than its tokens: it has a layout, comments, lines, and it may go on behind the
place where an error is found.  None of this has any influence on what the parser answers, apart
from the line that an error names.  In the other direction nothing is lost: the tokens of a source
can be read off the text that it is parsed to, so that two sources with the same text have the same
tokens, whatever their string constants hold.

Main definitions:

* `lexedTokens` — the tokens of a source up to its end or to its lexical error;
* `AgreesUpTo` — a source begins with given tokens and goes on with a given lookahead.

Main results:

* `Scan.readClass_of_agreesUpTo` — a failing reading fails in the same way on every scan that agrees
  with it up to the lookahead;
* `tokens_eq_of_render_eq` — the text of a tree determines its tokens;
* `parse_depends_on_tokens` — **the tokens decide the answer, and the answer determines the
  tokens**.
-/

import JackSyntax.Proofs.Parsing.FirstError
import JackSyntax.Proofs.Parsing.RoundTrip

set_option relaxedAutoImplicit false
set_option autoImplicit false

namespace JackSyntax

open JackSyntax.Tree

/-- The tokens of a source up to its end or to its lexical error. -/
def lexedTokens (source : String) : List Token := (scan source).tokens.map Located.item

/-- A source begins with the given tokens and goes on with the given one, or ends behind them if
none is given.  Nothing is said of what follows that token, and it need not have tokens. -/
def AgreesUpTo (source : String) (consumed : List Token) : Option Token → Prop
  | some token => consumed ++ [token] <+: lexedTokens source
  | none => tokenize source = .ok consumed

/-! ### Failing readings -/

/-- The scan of a source that agrees with a reading up to its lookahead falls into the tokens that
were consumed and a rest with that lookahead. -/
theorem AgreesUpTo.scan_eq {source : String} {consumed : List Token} {lookahead : Option Token}
    (h : AgreesUpTo source consumed lookahead) :
    ∃ passed rest, scan source = Scan.prepend passed rest ∧
      passed.map Located.item = consumed ∧ rest.Loaded ∧ rest.lookahead = lookahead := by
  cases lookahead with
  | none =>
      obtain ⟨⟨line, ending⟩, rfl⟩ := (tokenize_eq_ok_iff ..).1 h
      have whole : scan source = Scan.prepend (scan source).tokens ⟨[], (scan source).ending⟩ := by
        simp [Scan.prepend]
      exact ⟨_, _, whole, rfl, fun _ => ⟨line, ending⟩, rfl⟩
  | some token =>
      obtain ⟨rest, whole⟩ := h
      rw [lexedTokens, List.append_assoc, eq_comm, List.map_eq_append_iff] at whole
      obtain ⟨passed, others, split, rfl, behind⟩ := whole
      obtain ⟨first, later, rfl, rfl, -⟩ := List.map_eq_cons_iff.1 behind
      exact ⟨passed, ⟨first :: later, (scan source).ending⟩, by simp [Scan.prepend, ← split], rfl,
        Scan.loaded_cons _ _ _, rfl⟩

namespace Scan

variable {levels : Nat} {s : Scan} {failure : Failure}

/-- A reading that fails otherwise than by a lexical error fails in the same way on every source
that agrees with it up to the lookahead. -/
theorem readClass_of_agreesUpTo (h : s.readClass levels = .error failure)
    (other : ∀ fault, failure.fault ≠ .lexical fault) {passed : List (Located Token)}
    (whole : s = failure.ahead.prepend passed) {source : String}
    (agrees : AgreesUpTo source (passed.map Located.item) failure.ahead.lookahead) :
    ∃ ahead, (scan source).readClass levels = .error ⟨failure.fault, ahead⟩ := by
  obtain ⟨passed', whole', -, run⟩ := readClass_congr_seen h other (Nat.le_refl _) fun _ => rfl
  obtain rfl : passed' = passed := prepend_right_inj.1 (whole'.symm.trans whole)
  obtain ⟨passed'', rest, split, alike, loaded, same⟩ := agrees.scan_eq
  rw [split]
  exact ⟨rest, run rest loaded same passed'' alike⟩

end Scan

/-- A source agrees with a reading of its own tokens up to the lookahead. -/
theorem agreesUpTo_self {source : String} {passed : List (Located Token)} {ahead : Scan}
    (whole : scan source = ahead.prepend passed) (loaded : ahead.Loaded) :
    AgreesUpTo source (passed.map Located.item) ahead.lookahead := by
  cases seen : ahead.lookahead with
  | none =>
      have empty := Scan.lookahead_eq_none_iff.1 seen
      obtain ⟨line, ending⟩ := loaded empty
      exact (tokenize_eq_ok_iff ..).2 ⟨⟨line, by rw [whole]; exact ending⟩, by simp [whole, empty]⟩
  | some token =>
      obtain ⟨first, rest, split, rfl⟩ := Scan.lookahead_eq_some seen
      exact ⟨rest.map Located.item, by simp [lexedTokens, whole, split]⟩

/-! ### Equal tokens -/

/-- Sources with the same tokens are parsed to the same text, or fail with the same fault. -/
theorem parse_congr_tokens {first second : String} {tokens : List Token}
    (h₁ : tokenize first = .ok tokens) (h₂ : tokenize second = .ok tokens) :
    (parse first).mapError Located.item = (parse second).mapError Located.item := by
  obtain ⟨complete₁, items₁⟩ := (tokenize_eq_ok_iff ..).1 h₁
  obtain ⟨complete₂, items₂⟩ := (tokenize_eq_ok_iff ..).1 h₂
  cases answer : (scan first).readClass maxNesting with
  | ok tree =>
      -- acceptance is a matter of the tokens alone
      obtain ⟨-, derives, leaves, nesting⟩ := (Scan.readClass_eq_ok_iff tree).1 answer
      have answer' := (Scan.readClass_eq_ok_iff tree).2
        ⟨complete₂, derives, leaves.trans (items₁.trans items₂.symm), nesting⟩
      rw [(parse_eq_ok_iff first _).2 ⟨tree, answer, rfl⟩,
        (parse_eq_ok_iff second _).2 ⟨tree, answer', rfl⟩]
  | error failure =>
      have other : ∀ fault, failure.fault ≠ .lexical fault := by
        intro fault lexical
        obtain ⟨line, ending⟩ := complete₁
        obtain ⟨_, ahead⟩ := failure
        obtain rfl := lexical
        rw [(Scan.ending_of_lexical answer).1] at ending
        cases ending
      obtain ⟨passed, whole, loaded, -⟩ :=
        Scan.readClass_congr_seen answer other (Nat.le_refl _) fun _ => rfl
      -- the second source has the consumed tokens and the lookahead of the first one
      have agrees : AgreesUpTo second (passed.map Located.item) failure.ahead.lookahead := by
        have self := agreesUpTo_self whole loaded
        have lexed : lexedTokens first = lexedTokens second := items₁.trans items₂.symm
        cases seen : failure.ahead.lookahead with
        | none =>
            rw [seen] at self
            exact h₂.trans (h₁.symm.trans self)
        | some token =>
            rw [seen, AgreesUpTo, lexed] at self
            exact self
      obtain ⟨ahead, failed⟩ := Scan.readClass_of_agreesUpTo answer other whole agrees
      rw [(parse_eq_error_iff first _).2 ⟨failure, answer, rfl⟩,
        (parse_eq_error_iff second _).2 ⟨_, failed, rfl⟩]
      rfl

/-! ### Equal texts -/

/-- The text of a tree determines its tokens. -/
theorem tokens_eq_of_render_eq {first second : Tree}
    (lexical₁ : ∀ token ∈ first.tokens, token.IsLexical)
    (lexical₂ : ∀ token ∈ second.tokens, token.IsLexical) (h : first.render = second.render) :
    first.tokens = second.tokens := by
  have read : ∀ tree : Tree, (∀ token ∈ tree.tokens, token.IsLexical) →
      tokenize (leafSource tree.render) = .ok tree.tokens := by
    intro tree lexical
    rw [leafSource_render lexical, tokenize_joined lexical]
  have same := read first lexical₁
  rw [h, read second lexical₂] at same
  exact (Except.ok.inj same).symm

/-- What is parsed is the text of a tree with the tokens of the source. -/
theorem tokenize_of_parse {source text : String} (h : parse source = .ok text) :
    ∃ tree : Tree, tokenize source = .ok tree.tokens ∧ text = tree.render := by
  obtain ⟨tree, answer, rfl⟩ := (parse_eq_ok_iff source text).1 h
  obtain ⟨complete, -, leaves, -⟩ := (Scan.readClass_eq_ok_iff tree).1 answer
  exact ⟨tree, (tokenize_eq_ok_iff ..).2 ⟨complete, leaves.symm⟩, rfl⟩

/-- **Parsing depends on the tokens alone, and its result determines them.**

* Sources with the same tokens are parsed to the same text, or fail with the same fault, that is
  with the same thing missing and the same token found; only the line may differ.
* An error that is not a lexical one is found with some tokens consumed and a lookahead behind them,
  a token or the end of the source, and every source that begins with these tokens and goes on with
  that lookahead has the same fault, whatever else it holds.
* Two sources are parsed to the same text exactly when they have the same tokens. -/
theorem parse_depends_on_tokens (first second : String) :
    (∀ tokens, tokenize first = .ok tokens → tokenize second = .ok tokens →
      (parse first).mapError Located.item = (parse second).mapError Located.item) ∧
    (∀ line fault, parse first = .error ⟨line, fault⟩ → (∀ lexical, fault ≠ .lexical lexical) →
      ∃ passed ahead, (scan first).readClass maxNesting = .error ⟨fault, ahead⟩ ∧
        scan first = ahead.prepend passed ∧
        AgreesUpTo first (passed.map Located.item) ahead.lookahead ∧
        (AgreesUpTo second (passed.map Located.item) ahead.lookahead →
          ∃ line', parse second = .error ⟨line', fault⟩)) ∧
    (∀ text₁ text₂, parse first = .ok text₁ → parse second = .ok text₂ →
      (text₁ = text₂ ↔ tokenize first = tokenize second)) := by
  refine ⟨fun tokens => parse_congr_tokens, ?failing, ?texts⟩
  case failing =>
    intro line fault h other
    obtain ⟨⟨fault, ahead⟩, failed, same⟩ := (parse_eq_error_iff ..).1 h
    cases same
    obtain ⟨passed, whole, loaded, -⟩ :=
      Scan.readClass_congr_seen failed other (Nat.le_refl _) fun _ => rfl
    refine ⟨passed, ahead, failed, whole, agreesUpTo_self whole loaded, fun agrees => ?_⟩
    obtain ⟨ahead', failed'⟩ := Scan.readClass_of_agreesUpTo failed other whole agrees
    exact ⟨ahead'.line, (parse_eq_error_iff ..).2 ⟨_, failed', rfl⟩⟩
  case texts =>
    intro text₁ text₂ h₁ h₂
    obtain ⟨tree₁, tokens₁, same₁⟩ := tokenize_of_parse h₁
    obtain ⟨tree₂, tokens₂, same₂⟩ := tokenize_of_parse h₂
    constructor
    · intro same
      have tokens := tokens_eq_of_render_eq (isLexical_of_tokenize tokens₁)
        (isLexical_of_tokenize tokens₂) (same₁.symm.trans (same.trans same₂))
      rw [tokens₁, tokens₂, tokens]
    · intro same
      have answers := parse_congr_tokens tokens₁ (same.symm.trans tokens₁)
      rw [h₁, h₂] at answers
      exact Except.ok.inj answers

/-- Comments and lines make no difference, neither to a class nor to a number in the place of its
name, and neither does a string constant that is never closed behind that number. -/
theorem comments_and_rest_make_no_difference :
    (∃ text, parse "class A \x7b static int x; \x7d" = .ok text ∧
      parse "class A // A\n\x7b static /* \x7d */ int x;\x7d" = .ok text) ∧
    (tokenize "class 1" = tokenize "class // A\n1" ∧
      (parse "class 1").mapError Located.item = (parse "class // A\n1").mapError Located.item) ∧
    (parse "class 1" = .error ⟨1, .unexpected .identifier (some (.integerConstant 1))⟩ ∧
      ∃ line, parse "\nclass 1 \"" =
        .error ⟨line, .unexpected .identifier (some (.integerConstant 1))⟩) := by
  refine ⟨?accepted, ?refused, ?cut⟩
  case accepted =>
    let first := "class A \x7b static int x; \x7d"
    let second := "class A // A\n\x7b static /* \x7d */ int x;\x7d"
    have tokens : tokenize first = tokenize second := by decide +kernel
    obtain ⟨text₁, h₁⟩ := exists_eq_ok_of_isOk (by decide +kernel : (parse first).isOk = true)
    obtain ⟨text₂, h₂⟩ := exists_eq_ok_of_isOk (by decide +kernel : (parse second).isOk = true)
    have same := ((parse_depends_on_tokens first second).2.2 text₁ text₂ h₁ h₂).2 tokens
    exact ⟨text₁, h₁, same ▸ h₂⟩
  case refused =>
    have tokens₁ : tokenize "class 1" = .ok [.keyword .«class», .integerConstant 1] := by
      decide +kernel
    have tokens₂ : tokenize "class // A\n1" = .ok [.keyword .«class», .integerConstant 1] := by
      decide +kernel
    exact ⟨tokens₁.trans tokens₂.symm, (parse_depends_on_tokens _ _).1 _ tokens₁ tokens₂⟩
  case cut =>
    have failed : parse "class 1" =
        .error ⟨1, .unexpected .identifier (some (.integerConstant 1))⟩ := by decide +kernel
    obtain ⟨passed, ahead, answer, -, self, again⟩ :=
      (parse_depends_on_tokens "class 1" "\nclass 1 \"").2.1 _ _ failed fun _ => Fault.noConfusion
    have more : lexedTokens "class 1" <+: lexedTokens "\nclass 1 \"" := by decide +kernel
    rw [← Scan.readClass_found answer] at self again
    exact ⟨failed, again (List.IsPrefix.trans self more)⟩

end JackSyntax
