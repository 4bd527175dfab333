/-
**One token of lookahead is enough.**

A branch or a loop of a rule is decided by the class of the next token.  For the decision to be
right, whatever the chosen part describes has to begin with a token of the class, and whatever may
stand in its place must not.  Both are questions about finitely many kinds of token, so they are
answered by running a function on the rules.

Main definitions:

* `Kind`, `Token.kind` — what the classes of the grammar can tell of a token;
* `Terminal.kinds` — a class as the list of its kinds;
* `Rule.isNullable`, `Rule.firstKinds` — whether a rule describes rows without tokens, and the kinds
  of token that its rows begin with;
* `Rule.starts` — the lookaheads at the beginning of a row, given the lookaheads behind it;
* `Rule.isPredictive` — every branch and every loop is decided by its class.

Main results:

* `Terminal.admits_iff` — a class admits a token exactly when it lists its kind;
* `Rule.Describes.lookahead_mem_starts` — the computed lookaheads leave none out;
* `Grammar.isPredictive_classBody`, `Grammar.isPredictive_body` — **the grammar is predictive**.
-/

import JackSyntax.Proofs.Grammar.Description

set_option relaxedAutoImplicit false
set_option autoImplicit false

namespace JackSyntax

open JackSyntax.Tree

/-! ### Kinds of tokens -/

/-- What decides whether a token belongs to a class: keywords and symbols count one by one, the
other tokens only by what they are. -/
inductive Kind where
  | keyword (word : Keyword)
  | symbol (character : Char)
  | integerConstant
  | stringConstant
  | identifier
  deriving DecidableEq

/-- The kind of a token. -/
def Token.kind : Token → Kind
  | .keyword word => .keyword word
  | .symbol character => .symbol character
  | .integerConstant _ => .integerConstant
  | .stringConstant _ => .stringConstant
  | .identifier _ => .identifier

namespace Terminal

/-- The kinds that a class consists of. -/
def kinds : Terminal → List Kind
  | .keyword word => [.keyword word]
  | .symbol character => [.symbol character]
  | .identifier => [.identifier]
  | .type => [.keyword .int, .keyword .char, .keyword .boolean, .identifier]
  | .returnType => [.keyword .void, .keyword .int, .keyword .char, .keyword .boolean, .identifier]
  | .classVarKind => [.keyword .static, .keyword .field]
  | .subroutineKind => [.keyword .constructor, .keyword .function, .keyword .method]
  | .statement =>
      [.keyword .«let», .keyword .«if», .keyword .«while», .keyword .«do», .keyword .«return»]
  | .term =>
      [.identifier, .integerConstant, .stringConstant, .keyword .true, .keyword .false,
        .keyword .null, .keyword .this, .symbol '(', .symbol '-', .symbol '~']
  | .constant =>
      [.integerConstant, .stringConstant, .keyword .true, .keyword .false, .keyword .null,
        .keyword .this]
  | .operator => operators.toList.map .symbol
  | .unaryOperator => unaryOperators.toList.map .symbol

/-- A class admits a token exactly when it lists its kind. -/
theorem admits_iff (terminal : Terminal) (token : Token) :
    terminal.admits token = true ↔ token.kind ∈ terminal.kinds := by
  cases terminal <;> cases token <;>
    simp [admits.eq_def, kinds, Token.kind, Token.isKeyword, Token.isSymbol, Token.isOperator,
      Token.isUnaryOperator, operators, unaryOperators]

/-- Whether a lookahead belongs to a class; the end of the tokens belongs to none. -/
def admitsKind (terminal : Terminal) : Option Kind → Bool
  | some kind => terminal.kinds.contains kind
  | none => false

@[simp] theorem admitsKind_some (terminal : Terminal) (kind : Kind) :
    terminal.admitsKind (some kind) = true ↔ kind ∈ terminal.kinds := by
  simp [admitsKind]

end Terminal

/-- The kind of the first of some tokens. -/
def lookaheadKind (tokens : List Token) : Option Kind := tokens.head?.map Token.kind

@[simp] theorem lookaheadKind_nil : lookaheadKind [] = none := rfl

@[simp] theorem lookaheadKind_cons (token : Token) (tokens : List Token) :
    lookaheadKind (token :: tokens) = some token.kind := rfl

/-! ### Lookaheads of rules -/

namespace Recursive

/-- Whether a recursive phrase may have no tokens. -/
def isNullable : Recursive → Bool
  | .term => false
  | .statements => true

/-- The kinds of token that a recursive phrase begins with. -/
def firstKinds : Recursive → List Kind
  | .term => Terminal.term.kinds
  | .statements => Terminal.statement.kinds

/-- The lookaheads behind a recursive phrase. -/
def follow : Recursive → List (Option Kind)
  | .term =>
      (Terminal.operator.kinds ++ [Kind.symbol ')', .symbol ']', .symbol ';', .symbol ',']).map some
  | .statements => [some (.symbol '\x7d')]

end Recursive

namespace Rule

/-- Whether a rule describes a row without tokens. -/
def isNullable : Rule → Bool
  | .empty => true
  | .token _ => false
  | .refuse _ => false
  | .seq first second => first.isNullable && second.isNullable
  | .element _ body => body.isNullable
  | .branch _ yes no => yes.isNullable || no.isNullable
  | .loop _ _ => true
  | .nested phrase => phrase.isNullable

/-- The kinds of token that the rows of a rule begin with. -/
def firstKinds : Rule → List Kind
  | .empty => []
  | .token terminal => terminal.kinds
  | .refuse _ => []
  | .seq first second =>
      first.firstKinds ++ if first.isNullable then second.firstKinds else []
  | .element _ body => body.firstKinds
  | .branch _ yes no => yes.firstKinds ++ no.firstKinds
  | .loop _ body => body.firstKinds
  | .nested phrase => phrase.firstKinds

/-- The lookaheads at the beginning of a row of a rule, if the lookahead behind the row is one of
`follow`. -/
def starts (follow : List (Option Kind)) (rule : Rule) : List (Option Kind) :=
  rule.firstKinds.map some ++ if rule.isNullable then follow else []

theorem mem_starts {follow : List (Option Kind)} {rule : Rule} {look : Option Kind} :
    look ∈ rule.starts follow ↔
      (∃ kind ∈ rule.firstKinds, some kind = look) ∨ rule.isNullable = true ∧ look ∈ follow := by
  rw [starts, List.mem_append, List.mem_map]
  cases rule.isNullable <;> simp

/-- Every branch takes its first possibility on a class of tokens that begin it and do not begin the
second; every loop goes on, by at least one token, on a class of tokens that begin its body and do
not stand behind it.  The lookahead behind the rule is one of `follow`. -/
def isPredictive : List (Option Kind) → Rule → Bool
  | _, .empty => true
  | _, .token _ => true
  | _, .refuse _ => true
  | follow, .seq first second =>
      isPredictive (second.starts follow) first && isPredictive follow second
  | follow, .element _ body => isPredictive follow body
  | follow, .branch terminal yes no =>
      (yes.starts follow).all terminal.admitsKind && !(no.starts follow).any terminal.admitsKind &&
        isPredictive follow yes && isPredictive follow no
  | follow, .loop terminal body =>
      !body.isNullable && (body.firstKinds.map some).all terminal.admitsKind &&
        !follow.any terminal.admitsKind && isPredictive (body.firstKinds.map some ++ follow) body
  | follow, .nested phrase => follow.all phrase.follow.contains

end Rule

namespace Grammar

theorem isNullable_body (phrase : Recursive) :
    (body phrase).isNullable = phrase.isNullable := by
  cases phrase <;> rfl

theorem firstKinds_body_subset (phrase : Recursive) :
    (body phrase).firstKinds ⊆ phrase.firstKinds := by
  cases phrase <;> decide +kernel

/-- One token of lookahead decides everything inside a recursive phrase. -/
theorem isPredictive_body (phrase : Recursive) :
    (body phrase).isPredictive phrase.follow = true := by
  cases phrase <;> decide +kernel

/-- One token of lookahead decides everything in a class. -/
theorem isPredictive_classBody : classBody.isPredictive [none] = true := by decide +kernel

end Grammar

/-! ### The computed lookaheads are right -/

namespace Rule.Describes

variable {levels : Nat} {rule : Rule} {row : List Tree}

/-- A row of a rule begins with one of the lookaheads computed for the rule. -/
theorem lookahead_mem_starts (h : Describes levels rule row) {rest : List Token}
    {follow : List (Option Kind)} (behind : lookaheadKind rest ∈ follow) :
    lookaheadKind (tokensAll row ++ rest) ∈ rule.starts follow := by
  induction h generalizing rest follow with
  | empty => simpa [starts, firstKinds, isNullable] using behind
  | @token _ terminal token admitted =>
      have listed := (terminal.admits_iff token).1 admitted
      simpa [starts, firstKinds, isNullable] using listed
  | seq _ _ ih₁ ih₂ =>
      rw [tokensAll_append, List.append_assoc]
      have began := ih₁ (ih₂ behind)
      rw [mem_starts] at began ⊢
      rcases began with ⟨kind, first, same⟩ | ⟨nullable, began⟩
      · exact Or.inl ⟨kind, by simp [firstKinds, first], same⟩
      · rcases mem_starts.1 began with ⟨kind, second, same⟩ | ⟨nullable', stays⟩
        · exact Or.inl ⟨kind, by simp [firstKinds, nullable, second], same⟩
        · exact Or.inr ⟨by simp [isNullable, nullable, nullable'], stays⟩
  | element phrase _ ih =>
      rw [tokensAll_cons, tokens_node, tokensAll_nil, List.append_nil]
      exact ih behind
  | yes terminal no _ ih =>
      rcases mem_starts.1 (ih behind) with ⟨kind, first, same⟩ | ⟨nullable, stays⟩
      · exact mem_starts.2 (Or.inl ⟨kind, by simp [firstKinds, first], same⟩)
      · exact mem_starts.2 (Or.inr ⟨by simp [isNullable, nullable], stays⟩)
  | no terminal yes _ ih =>
      rcases mem_starts.1 (ih behind) with ⟨kind, first, same⟩ | ⟨nullable, stays⟩
      · exact mem_starts.2 (Or.inl ⟨kind, by simp [firstKinds, first], same⟩)
      · exact mem_starts.2 (Or.inr ⟨by simp [isNullable, nullable], stays⟩)
  | done => simpa [starts, isNullable] using Or.inr behind
  | more _ _ ih₁ ih₂ =>
      rw [tokensAll_append, List.append_assoc]
      -- behind the first round stands whatever may begin the loop, for the loop may end there
      rcases mem_starts.1 (ih₁ (ih₂ behind)) with ⟨kind, first, same⟩ | ⟨-, stays⟩
      · exact mem_starts.2 (Or.inl ⟨kind, first, same⟩)
      · exact stays
  | @nested _ phrase _ _ ih =>
      rcases mem_starts.1 (ih behind) with ⟨kind, first, same⟩ | ⟨nullable, stays⟩
      · exact mem_starts.2 (Or.inl ⟨kind, Grammar.firstKinds_body_subset phrase first, same⟩)
      · exact mem_starts.2 (Or.inr ⟨(Grammar.isNullable_body phrase).symm.trans nullable, stays⟩)

/-- Only a nullable rule describes a row without tokens. -/
theorem isNullable_of_tokensAll (h : Describes levels rule row) (none : tokensAll row = []) :
    rule.isNullable = true := by
  have behind : lookaheadKind [] ∈ [Option.none] := List.mem_singleton_self _
  have began := h.lookahead_mem_starts behind
  rw [none] at began
  simpa [mem_starts] using began

end Rule.Describes

end JackSyntax
