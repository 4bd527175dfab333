/-
**The rules describe the reference grammar.**

The rules of `JackSyntax/Grammar/Jack.lean` are laid out for a reader: alternatives are nested so
that one class of tokens decides each, common beginnings are shared, and only two phrases are
recursive.  They describe the derivations of the reference grammar all the same, and the levels of a
description are the nesting of the trees.

Main definitions:

* `Agree` — a rule and an expression of the grammar describe the same rows, up to a nesting.

Main results:

* `agree_term`, `agree_statements` — the recursive phrases agree, by induction on the levels;
* `agree_classBody` — **the rule of a class agrees with its production**.
-/

import JackSyntax.Proofs.Grammar.Reference

set_option relaxedAutoImplicit false
set_option autoImplicit false

namespace JackSyntax

open JackSyntax.Tree Rule Ebnf

/-- With so many levels, the rule describes the rows that derive from the expression and nest no
deeper. -/
def Agree (levels : Nat) (rule : Rule) (e : Ebnf) : Prop :=
  ∀ row, Describes levels rule row ↔ Derives e row ∧ nestingAll row ≤ levels

namespace Agree

variable {levels : Nat} {rule first second body : Rule} {e e' e₁ e₂ : Ebnf}

/-! ### Forms of rules -/

/-- Agreement does not depend on how an expression is written. -/
theorem congr (h : Agree levels rule e) (same : ∀ row, Derives e row ↔ Derives e' row) :
    Agree levels rule e' :=
  fun row => by rw [h row, same row]

/-- A class of tokens agrees with a choice among its kinds. -/
theorem token {terminal : Terminal}
    (same : ∀ row, Derives e row ↔
      ∃ token : Token, token.kind ∈ terminal.kinds ∧ row = [.leaf token]) :
    Agree levels (.token terminal) e := by
  intro row
  simp only [Describes.token_iff, same, terminal.admits_iff]
  constructor
  · rintro ⟨token, listed, rfl⟩
    exact ⟨⟨token, listed, rfl⟩, by simp⟩
  · exact And.left

theorem seq (h₁ : Agree levels first e₁) (h₂ : Agree levels second e₂) :
    Agree levels (.seq first second) (.seq e₁ e₂) := by
  intro row
  rw [Describes.seq_iff, seq_iff]
  constructor
  · rintro ⟨left, right, d₁, d₂, rfl⟩
    obtain ⟨d₁, le₁⟩ := (h₁ left).1 d₁
    obtain ⟨d₂, le₂⟩ := (h₂ right).1 d₂
    exact ⟨⟨left, right, d₁, d₂, rfl⟩, by simpa using Nat.max_le.2 ⟨le₁, le₂⟩⟩
  · rintro ⟨⟨left, right, d₁, d₂, rfl⟩, le⟩
    rw [nestingAll_append, Nat.max_le] at le
    exact ⟨left, right, (h₁ left).2 ⟨d₁, le.1⟩, (h₂ right).2 ⟨d₂, le.2⟩, rfl⟩

theorem branch (terminal : Terminal) (h₁ : Agree levels first e₁) (h₂ : Agree levels second e₂) :
    Agree levels (.branch terminal first second) (.choice e₁ e₂) := by
  intro row
  rw [Describes.branch_iff, choice_iff, h₁ row, h₂ row, or_and_right]

/-- A refusal adds nothing to the other possibility. -/
theorem branch_refuse (terminal terminal' : Terminal) (h : Agree levels first e) :
    Agree levels (.branch terminal first (.refuse terminal')) e := by
  intro row
  simpa [Describes.branch_iff] using h row

theorem whenNext (terminal : Terminal) (h : Agree levels body e) :
    Agree levels (whenNext terminal body) (.optional e) := by
  intro row
  rw [Rule.whenNext, Describes.branch_iff, optional_iff, Describes.empty_iff, h row]
  constructor
  · rintro (⟨d, le⟩ | rfl)
    · exact ⟨Or.inr d, le⟩
    · exact ⟨Or.inl rfl, by simp⟩
  · rintro ⟨rfl | d, le⟩
    · exact Or.inr rfl
    · exact Or.inl ⟨d, le⟩

theorem unlessNext (terminal : Terminal) (h : Agree levels body e) :
    Agree levels (unlessNext terminal body) (.optional e) := by
  intro row
  rw [← h.whenNext terminal row, Rule.whenNext, Rule.unlessNext, Describes.branch_iff,
    Describes.branch_iff, or_comm]

theorem loop (terminal : Terminal) (h : Agree levels body e) :
    Agree levels (.loop terminal body) (.many e) := by
  intro row
  constructor
  · intro d
    generalize looped : Rule.loop terminal body = rule at d
    induction d with
    | done => exact ⟨.done e, by simp⟩
    | more round _ _ ih =>
        cases looped
        obtain ⟨d₁, le₁⟩ := (h _).1 round
        obtain ⟨d₂, le₂⟩ := ih h rfl
        exact ⟨.more d₁ d₂, by simpa using Nat.max_le.2 ⟨le₁, le₂⟩⟩
    | _ => cases looped
  · rintro ⟨d, le⟩
    generalize repeated : Ebnf.many e = e' at d
    induction d with
    | done => exact .done _ terminal body
    | more round _ _ ih =>
        cases repeated
        rw [nestingAll_append, Nat.max_le] at le
        exact .more ((h _).2 ⟨round, le.1⟩) (ih le.2 rfl)
    | _ => cases repeated

/-- A node that is not recursive agrees with a name if its inside agrees with the production. -/
theorem element {phrase : Phrase} {name : Nonterminal} (named : name.phrase? = some phrase)
    (flat : phrase.isRecursive = false) (h : Agree levels body name.production) :
    Agree levels (.element phrase body) (.name name) := by
  intro row
  rw [Describes.element_iff, name_iff_of_node name named]
  constructor
  · rintro ⟨parts, d, rfl⟩
    obtain ⟨d, le⟩ := (h parts).1 d
    exact ⟨⟨parts, d, rfl⟩, by simpa [flat] using le⟩
  · rintro ⟨⟨parts, d, rfl⟩, le⟩
    exact ⟨parts, (h parts).2 ⟨d, by simpa [flat] using le⟩, rfl⟩

/-- A name without a node agrees like its production. -/
theorem inlined {name : Nonterminal} (unnamed : name.phrase? = none)
    (h : Agree levels rule name.production) : Agree levels rule (.name name) :=
  h.congr fun _ => (name_iff_of_inlined name unnamed).symm

section Nested

variable {recursive : Recursive} {phrase : Phrase} {name : Nonterminal}

/-- Without levels a recursive phrase describes nothing, and all its trees nest. -/
theorem nested_zero (named : name.phrase? = some phrase) (deep : phrase.isRecursive = true) :
    Agree 0 (.nested recursive) (.name name) := by
  intro row
  rw [Describes.nested_iff, name_iff_of_node name named]
  constructor
  · rintro ⟨below, impossible, -⟩
    cases impossible
  · rintro ⟨⟨parts, -, rfl⟩, le⟩
    simp [deep] at le

/-- A recursive phrase costs one level of description and one of nesting. -/
theorem nested_succ (named : name.phrase? = some phrase) (deep : phrase.isRecursive = true)
    (shape : Grammar.body recursive = .element phrase body)
    (h : Agree levels body name.production) :
    Agree (levels + 1) (.nested recursive) (.name name) := by
  intro row
  rw [Describes.nested_iff, name_iff_of_node name named]
  constructor
  · rintro ⟨below, same, d⟩
    obtain rfl : below = levels := by omega
    rw [shape, Describes.element_iff] at d
    obtain ⟨parts, d, rfl⟩ := d
    obtain ⟨d, le⟩ := (h parts).1 d
    exact ⟨⟨parts, d, rfl⟩, by simpa [deep] using le⟩
  · rintro ⟨⟨parts, d, rfl⟩, le⟩
    refine ⟨levels, rfl, ?_⟩
    rw [shape, Describes.element_iff]
    exact ⟨parts, (h parts).2 ⟨d, by simpa [deep] using le⟩, rfl⟩

end Nested

end Agree

/-! ### Classes of tokens -/

section Tokens

variable (levels : Nat)

/-- A choice among tokens is a token of one of the kinds. -/
theorem oneOf_tokens_iff (kind : Kind) (kinds : List Kind) (row : List Tree) :
    Derives (oneOf (.token kind) (kinds.map .token)) row ↔
      ∃ token : Token, token.kind ∈ kind :: kinds ∧ row = [.leaf token] := by
  induction kinds generalizing kind with
  | nil => simp [oneOf, Ebnf.token_iff]
  | cons second kinds ih =>
      rw [List.map_cons, oneOf, choice_iff, ih second, Ebnf.token_iff, ← exists_or]
      simp only [List.mem_cons, or_and_right]

/-- A class agrees with the choice among its kinds. -/
theorem agree_oneOf (kind : Kind) (kinds : List Kind) {terminal : Terminal}
    (listed : terminal.kinds = kind :: kinds) :
    Agree levels (.token terminal) (oneOf (.token kind) (kinds.map .token)) :=
  .token fun row => by simp only [oneOf_tokens_iff, listed]

theorem agree_keyword (word : Keyword) : Agree levels (Rule.keyword word) (Ebnf.word word) :=
  agree_oneOf levels (.keyword word) [] rfl

theorem agree_symbol (character : Char) : Agree levels (Rule.symbol character) (mark character) :=
  agree_oneOf levels (.symbol character) [] rfl

theorem agree_identifier : Agree levels Rule.identifier Ebnf.identifier :=
  agree_oneOf levels .identifier [] rfl

end Tokens

/-! ### Expressions -/

section Productions

variable {levels : Nat} {rule : Rule} {e : Ebnf}

theorem Agree.commaSeparated (h : Agree levels rule e) :
    Agree levels (Rule.commaSeparated rule) (Ebnf.commaSeparated e) :=
  h.seq (((agree_symbol levels ',').seq h).loop (.symbol ','))

theorem Agree.parenthesized (h : Agree levels rule e) :
    Agree levels (bracketed '(' rule ')') (Ebnf.parenthesized e) :=
  (agree_symbol levels '(').seq (h.seq (agree_symbol levels ')'))

theorem Agree.inBrackets (h : Agree levels rule e) :
    Agree levels (bracketed '[' rule ']') (Ebnf.inBrackets e) :=
  (agree_symbol levels '[').seq (h.seq (agree_symbol levels ']'))

theorem Agree.inBraces (h : Agree levels rule e) :
    Agree levels (bracketed '\x7b' rule '\x7d') (Ebnf.inBraces e) :=
  (agree_symbol levels '\x7b').seq (h.seq (agree_symbol levels '\x7d'))

/-- Parts of a row may be grouped in either way. -/
theorem seq_assoc (e₁ e₂ e₃ : Ebnf) (row : List Tree) :
    Derives (.seq e₁ (.seq e₂ e₃)) row ↔ Derives (.seq (.seq e₁ e₂) e₃) row := by
  simp only [seq_iff]
  constructor
  · rintro ⟨a, _, d₁, ⟨b, c, d₂, d₃, rfl⟩, rfl⟩
    exact ⟨a ++ b, c, ⟨a, b, d₁, d₂, rfl⟩, d₃, (List.append_assoc ..).symm⟩
  · rintro ⟨_, c, ⟨a, b, d₁, d₂, rfl⟩, d₃, rfl⟩
    exact ⟨a, b ++ c, d₁, ⟨b, c, d₂, d₃, rfl⟩, List.append_assoc ..⟩

theorem seq_congr {e₁ e₁' e₂ e₂' : Ebnf} (h₁ : ∀ row, Derives e₁ row ↔ Derives e₁' row)
    (h₂ : ∀ row, Derives e₂ row ↔ Derives e₂' row) (row : List Tree) :
    Derives (.seq e₁ e₂) row ↔ Derives (.seq e₁' e₂') row := by
  simp only [seq_iff, h₁, h₂]

/-- The arguments of a call with or without the name of a member before them. -/
theorem callTail_iff (row : List Tree) : Derives (.name .callTail) row ↔
    Derives (.sequence (mark '.') [.identifier, .parenthesized (.name .expressionList)]) row ∨
      Derives (.parenthesized (.name .expressionList)) row := by
  rw [name_iff_of_inlined .callTail rfl, Nonterminal.production, Ebnf.sequence, Ebnf.sequence,
    Ebnf.sequence, seq_assoc]
  simp only [seq_iff, optional_iff]
  constructor
  · rintro ⟨_, right, rfl | d₁, d₂, rfl⟩
    · exact Or.inr d₂
    · exact Or.inl ⟨_, right, d₁, d₂, rfl⟩
  · rintro (⟨left, right, d₁, d₂, rfl⟩ | d)
    · exact ⟨left, right, Or.inr d₁, d₂, rfl⟩
    · exact ⟨[], row, Or.inl rfl, d, rfl⟩

theorem agree_type : Agree levels (.token .type) (.name .type) :=
  .inlined rfl
    (agree_oneOf levels (.keyword .int) [.keyword .char, .keyword .boolean, .identifier] rfl)

theorem agree_returnType :
    Agree levels (.token .returnType) (oneOf (.word .void) [.name .type]) := by
  have flat : Agree levels (.token .returnType)
      (.choice (.word .void) Nonterminal.type.production) :=
    agree_oneOf levels (.keyword .void)
      [.keyword .int, .keyword .char, .keyword .boolean, .identifier] rfl
  refine flat.congr fun row => ?_
  rw [oneOf, oneOf, choice_iff, choice_iff, name_iff_of_inlined .type rfl]

theorem agree_operator : Agree levels (.token .operator) (.name .operator) :=
  .inlined rfl (agree_oneOf levels (.symbol '+')
    ("-*/&|<>=".toList.map .symbol) (by simp [Terminal.kinds, operators]))

theorem agree_unaryOperator : Agree levels (.token .unaryOperator) (.name .unaryOperator) :=
  .inlined rfl (agree_oneOf levels (.symbol '-') [.symbol '~']
    (by simp [Terminal.kinds, unaryOperators]))

variable (term : Agree levels (.nested .term) (.name .term))

include term

theorem agree_expression : Agree levels Grammar.expression (.name .expression) := by
  have term : Agree levels Grammar.term (.name .term) := term.branch_refuse .term .term
  exact .element rfl rfl (term.seq ((agree_operator.seq term).loop .operator))

theorem agree_expressionList : Agree levels Grammar.expressionList (.name .expressionList) :=
  .element rfl rfl ((agree_expression term).commaSeparated.unlessNext (.symbol ')'))

theorem agree_arguments :
    Agree levels Grammar.arguments (.parenthesized (.name .expressionList)) :=
  (agree_expressionList term).parenthesized

theorem agree_index : Agree levels Grammar.index (.inBrackets (.name .expression)) :=
  (agree_expression term).inBrackets

theorem agree_nameTail : Agree levels Grammar.nameTail
    (.optional (oneOf (.inBrackets (.name .expression)) [.name .callTail])) := by
  have member : Agree levels (Rule.sequence [Rule.symbol '.', Rule.identifier, Grammar.arguments])
      (.sequence (mark '.') [.identifier, .parenthesized (.name .expressionList)]) :=
    (agree_symbol levels '.').seq ((agree_identifier levels).seq (agree_arguments term))
  have call := (agree_arguments term).whenNext (.symbol '(')
  refine (member.branch (.symbol '.') ((agree_index term).branch (.symbol '[') call)).congr ?_
  intro row
  simp only [choice_iff, optional_iff, oneOf, callTail_iff]
  tauto

/-- The inside of a term. -/
theorem agree_termParts : Agree levels
    (.branch .identifier (.seq Rule.identifier Grammar.nameTail)
      (.branch (.symbol '(') (bracketed '(' Grammar.expression ')')
        (.branch .unaryOperator (.seq (.token .unaryOperator) Grammar.term) (.token .constant))))
    Nonterminal.term.production := by
  have named := (agree_identifier levels).seq (agree_nameTail term)
  have group := (agree_expression term).parenthesized
  have signed := agree_unaryOperator.seq (term.branch_refuse .term .term)
  have constant : Agree levels (.token .constant)
      (oneOf (.token .integerConstant) [.token .stringConstant,
        oneOf (.word .true) [.word .false, .word .null, .word .this]]) :=
    agree_oneOf levels .integerConstant [.stringConstant, .keyword .true, .keyword .false,
      .keyword .null, .keyword .this] rfl
  refine (named.branch .identifier (group.branch (.symbol '(')
    (signed.branch .unaryOperator constant))).congr fun row => ?_
  simp only [Nonterminal.production, oneOf, choice_iff,
    name_iff_of_inlined .keywordConstant rfl]
  tauto

/-! ### Statements -/

variable (statements : Agree levels (.nested .statements) (.name .statements))

theorem agree_letStatement : Agree levels Grammar.letStatement (.name .letStatement) := by
  have index := (agree_index term).whenNext (.symbol '[')
  have value := (agree_expression term).seq (agree_symbol levels ';')
  exact .element rfl rfl ((agree_keyword levels .«let»).seq ((agree_identifier levels).seq
    (index.seq ((agree_symbol levels '=').seq value))))

theorem agree_condition : Agree levels Grammar.condition (.parenthesized (.name .expression)) :=
  (agree_expression term).parenthesized

theorem agree_returnStatement : Agree levels Grammar.returnStatement (.name .returnStatement) := by
  have value := (agree_expression term).unlessNext (.symbol ';')
  exact .element rfl rfl
    ((agree_keyword levels .«return»).seq (value.seq (agree_symbol levels ';')))

/-- The grammar names the call of a statement, the rules write its parts out. -/
theorem agree_doStatement : Agree levels Grammar.doStatement (.name .doStatement) := by
  have member := ((agree_symbol levels '.').seq (agree_identifier levels)).whenNext (.symbol '.')
  have call := (agree_identifier levels).seq
    (member.seq ((agree_arguments term).seq (agree_symbol levels ';')))
  refine .element rfl rfl ((agree_keyword levels .«do»).seq (call.congr fun row => ?_))
  calc
    _ ↔ Derives (.seq .identifier (.seq (.name .callTail) (mark ';'))) row := by
      refine seq_congr (fun _ => Iff.rfl) (fun row => ?_) row
      rw [seq_assoc]
      exact seq_congr (fun row => (name_iff_of_inlined .callTail rfl).symm) (fun _ => Iff.rfl) row
    _ ↔ Derives (.seq (.name .subroutineCall) (mark ';')) row := by
      rw [seq_assoc]
      exact seq_congr (fun row => (name_iff_of_inlined .subroutineCall rfl).symm)
        (fun _ => Iff.rfl) row

include statements

omit term in
theorem agree_block : Agree levels Grammar.block (.inBraces (.name .statements)) :=
  statements.inBraces

theorem agree_ifStatement : Agree levels Grammar.ifStatement (.name .ifStatement) := by
  have block := agree_block statements
  have otherwise := ((agree_keyword levels .«else»).seq block).whenNext (.keyword .«else»)
  exact .element rfl rfl ((agree_keyword levels .«if»).seq
    ((agree_condition term).seq (block.seq otherwise)))

theorem agree_whileStatement : Agree levels Grammar.whileStatement (.name .whileStatement) :=
  .element rfl rfl ((agree_keyword levels .«while»).seq
    ((agree_condition term).seq (agree_block statements)))

/-- The inside of a row of statements. -/
theorem agree_statementsParts :
    Agree levels (.loop .statement Grammar.statement) Nonterminal.statements.production := by
  have statement : Agree levels Grammar.statement (.name .statement) :=
    .inlined rfl ((agree_letStatement term).branch _ ((agree_ifStatement term statements).branch _
      ((agree_whileStatement term statements).branch _ ((agree_doStatement term).branch _
        (agree_returnStatement term)))))
  exact statement.loop .statement

end Productions

/-! ### The recursive phrases -/

/-- Both recursive phrases agree with their names, by induction on the levels. -/
theorem agree_nested (levels : Nat) : Agree levels (.nested .term) (.name .term) ∧
    Agree levels (.nested .statements) (.name .statements) := by
  induction levels with
  | zero => exact ⟨.nested_zero rfl rfl, .nested_zero rfl rfl⟩
  | succ levels ih =>
      obtain ⟨term, statements⟩ := ih
      exact ⟨.nested_succ rfl rfl rfl (agree_termParts term),
        .nested_succ rfl rfl rfl (agree_statementsParts term statements)⟩

theorem agree_term (levels : Nat) : Agree levels (.nested .term) (.name .term) :=
  (agree_nested levels).1

theorem agree_statements (levels : Nat) : Agree levels (.nested .statements) (.name .statements) :=
  (agree_nested levels).2

/-! ### Declarations -/

section Declarations

variable (levels : Nat)

theorem agree_names : Agree levels Grammar.names (.commaSeparated .identifier) :=
  (agree_identifier levels).commaSeparated

theorem agree_classVarDec : Agree levels Grammar.classVarDec (.name .classVarDec) := by
  have kind : Agree levels (.token .classVarKind) (oneOf (word .static) [word .field]) :=
    agree_oneOf levels (.keyword .static) [.keyword .field] rfl
  exact .element rfl rfl (kind.seq (agree_type.seq
    ((agree_names levels).seq (agree_symbol levels ';'))))

theorem agree_varDec : Agree levels Grammar.varDec (.name .varDec) :=
  .element rfl rfl ((agree_keyword levels .var).seq (agree_type.seq
    ((agree_names levels).seq (agree_symbol levels ';'))))

theorem agree_parameterList : Agree levels Grammar.parameterList (.name .parameterList) :=
  .element rfl rfl
    ((agree_type.seq (agree_identifier levels)).commaSeparated.unlessNext (.symbol ')'))

theorem agree_subroutineBody : Agree levels Grammar.subroutineBody (.name .subroutineBody) :=
  .element rfl rfl
    ((agree_symbol levels '\x7b').seq (((agree_varDec levels).loop (.keyword .var)).seq
      ((agree_statements levels).seq (agree_symbol levels '\x7d'))))

theorem agree_subroutineDec : Agree levels Grammar.subroutineDec (.name .subroutineDec) := by
  have kind : Agree levels (.token .subroutineKind)
      (oneOf (word .constructor) [word .function, word .method]) :=
    agree_oneOf levels (.keyword .constructor) [.keyword .function, .keyword .method] rfl
  have parameters := (agree_symbol levels '(').seq ((agree_parameterList levels).seq
    ((agree_symbol levels ')').seq (agree_subroutineBody levels)))
  exact .element rfl rfl (kind.seq (agree_returnType.seq
    ((agree_identifier levels).seq parameters)))

/-- The rule of a class agrees with its production. -/
theorem agree_classBody : Agree levels Grammar.classBody Nonterminal.«class».production := by
  have fields := (agree_classVarDec levels).loop .classVarKind
  have subroutines := (agree_subroutineDec levels).loop .subroutineKind
  exact (agree_keyword levels .«class»).seq ((agree_identifier levels).seq
    ((agree_symbol levels '\x7b').seq (fields.seq
      (subroutines.seq (agree_symbol levels '\x7d')))))

end Declarations

end JackSyntax
