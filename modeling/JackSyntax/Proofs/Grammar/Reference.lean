/-
**The reference grammar of Jack.**

The grammar as the language's reference gives it, in extended Backus–Naur form and without any
regard to how it is read.  A named phrase becomes a node of the syntax tree; the names in the second
list leave no node of their own.

    class           = 'class' identifier '{' classVarDec* subroutineDec* '}'
    classVarDec     = ('static' | 'field') type identifier (',' identifier)* ';'
    subroutineDec   = ('constructor' | 'function' | 'method') ('void' | type) identifier
                      '(' parameterList ')' subroutineBody
    parameterList   = (type identifier (',' type identifier)*)?
    subroutineBody  = '{' varDec* statements '}'
    varDec          = 'var' type identifier (',' identifier)* ';'
    statements      = statement*
    letStatement    = 'let' identifier ('[' expression ']')? '=' expression ';'
    ifStatement     = 'if' '(' expression ')' '{' statements '}' ('else' '{' statements '}')?
    whileStatement  = 'while' '(' expression ')' '{' statements '}'
    doStatement     = 'do' subroutineCall ';'
    returnStatement = 'return' expression? ';'
    expression      = term (operator term)*
    expressionList  = (expression (',' expression)*)?
    term            = integerConstant | stringConstant | keywordConstant | unaryOperator term
                    | '(' expression ')' | identifier ('[' expression ']' | callTail)?

    type            = 'int' | 'char' | 'boolean' | identifier
    statement       = letStatement | ifStatement | whileStatement | doStatement | returnStatement
    subroutineCall  = identifier callTail
    callTail        = ('.' identifier)? '(' expressionList ')'
    keywordConstant = 'true' | 'false' | 'null' | 'this'
    unaryOperator   = '-' | '~'
    operator        = '+' | '-' | '*' | '/' | '&' | '|' | '<' | '>' | '='

Main definitions:

* `Ebnf`, `Nonterminal`, `Nonterminal.production` — the grammar;
* `Ebnf.Derives` — an expression of the grammar derives a row of trees;
* `Ebnf.Begins` — the tokens that such rows begin with;
* `Expected.construct?` — what a diagnostic asks for, as an expression of the grammar;
* `IsSentence`, `IsViablePrefix` — the token sequences of classes, and their prefixes.

Main results:

* `Ebnf.seq_iff`, `Ebnf.choice_iff`, `Ebnf.optional_iff`, `Ebnf.name_iff_of_inlined` and others —
  what each form of expression derives.
-/

import JackSyntax.Proofs.Grammar.Lookahead

set_option relaxedAutoImplicit false
set_option autoImplicit false

namespace JackSyntax

open JackSyntax.Tree

/-! ### The grammar -/

/-- The names of the grammar. -/
inductive Nonterminal where
  | «class» | classVarDec | subroutineDec | parameterList | subroutineBody | varDec
  | statements | letStatement | ifStatement | whileStatement | doStatement | returnStatement
  | expression | expressionList | term
  | type | statement | subroutineCall | callTail | keywordConstant | unaryOperator | operator

/-- The phrase whose node a name stands for, if it has a node. -/
def Nonterminal.phrase? : Nonterminal → Option Phrase
  | .«class» => some .classDec
  | .classVarDec => some .classVarDec
  | .subroutineDec => some .subroutineDec
  | .parameterList => some .parameterList
  | .subroutineBody => some .subroutineBody
  | .varDec => some .varDec
  | .statements => some .statements
  | .letStatement => some .letStatement
  | .ifStatement => some .ifStatement
  | .whileStatement => some .whileStatement
  | .doStatement => some .doStatement
  | .returnStatement => some .returnStatement
  | .expression => some .expression
  | .expressionList => some .expressionList
  | .term => some .term
  | _ => none

/-- Expressions of the grammar. -/
inductive Ebnf where
  /-- Any token of a kind. -/
  | token (kind : Kind)
  /-- What a name stands for. -/
  | name (name : Nonterminal)
  /-- One after the other. -/
  | seq (first second : Ebnf)
  /-- Either of two. -/
  | choice (first second : Ebnf)
  /-- At most once. -/
  | optional (body : Ebnf)
  /-- Any number of times. -/
  | many (body : Ebnf)

namespace Ebnf

/-- A keyword. -/
def word (keyword : Keyword) : Ebnf := token (.keyword keyword)

/-- A symbol. -/
def mark (character : Char) : Ebnf := token (.symbol character)

/-- An identifier. -/
def identifier : Ebnf := token .identifier

/-- Expressions one after the other. -/
def sequence (first : Ebnf) : List Ebnf → Ebnf
  | [] => first
  | second :: rest => seq first (sequence second rest)

/-- One of some expressions. -/
def oneOf (first : Ebnf) : List Ebnf → Ebnf
  | [] => first
  | second :: rest => choice first (oneOf second rest)

/-- One or more, with commas between them. -/
def commaSeparated (body : Ebnf) : Ebnf := seq body (many (seq (mark ',') body))

/-- Something in parentheses. -/
def parenthesized (body : Ebnf) : Ebnf := sequence (mark '(') [body, mark ')']

/-- Something in brackets. -/
def inBrackets (body : Ebnf) : Ebnf := sequence (mark '[') [body, mark ']']

/-- Something in braces. -/
def inBraces (body : Ebnf) : Ebnf := sequence (mark '\x7b') [body, mark '\x7d']

end Ebnf

open Ebnf in
/-- What a name of the grammar stands for. -/
def Nonterminal.production : Nonterminal → Ebnf
  | .«class» =>
      sequence (word .«class») [identifier, mark '\x7b', many (name .classVarDec),
        many (name .subroutineDec), mark '\x7d']
  | .classVarDec =>
      sequence (oneOf (word .static) [word .field])
        [name .type, commaSeparated identifier, mark ';']
  | .subroutineDec =>
      sequence (oneOf (word .constructor) [word .function, word .method])
        [oneOf (word .void) [name .type], identifier, mark '(', name .parameterList, mark ')',
          name .subroutineBody]
  | .parameterList => optional (commaSeparated (seq (name .type) identifier))
  | .subroutineBody =>
      sequence (mark '\x7b') [many (name .varDec), name .statements, mark '\x7d']
  | .varDec => sequence (word .var) [name .type, commaSeparated identifier, mark ';']
  | .statements => many (name .statement)
  | .letStatement =>
      sequence (word .«let») [identifier, optional (inBrackets (name .expression)), mark '=',
        name .expression, mark ';']
  | .ifStatement =>
      sequence (word .«if») [parenthesized (name .expression), inBraces (name .statements),
        optional (seq (word .«else») (inBraces (name .statements)))]
  | .whileStatement =>
      sequence (word .«while») [parenthesized (name .expression), inBraces (name .statements)]
  | .doStatement => sequence (word .«do») [name .subroutineCall, mark ';']
  | .returnStatement => sequence (word .«return») [optional (name .expression), mark ';']
  | .expression => seq (name .term) (many (seq (name .operator) (name .term)))
  | .expressionList => optional (commaSeparated (name .expression))
  | .term =>
      oneOf (token .integerConstant)
        [token .stringConstant, name .keywordConstant, seq (name .unaryOperator) (name .term),
          parenthesized (name .expression),
          seq identifier (optional (oneOf (inBrackets (name .expression)) [name .callTail]))]
  | .type => oneOf (word .int) [word .char, word .boolean, identifier]
  | .statement =>
      oneOf (name .letStatement) [name .ifStatement, name .whileStatement, name .doStatement,
        name .returnStatement]
  | .subroutineCall => seq identifier (name .callTail)
  | .callTail =>
      seq (optional (seq (mark '.') identifier)) (parenthesized (name .expressionList))
  | .keywordConstant => oneOf (word .true) [word .false, word .null, word .this]
  | .unaryOperator => oneOf (mark '-') [mark '~']
  | .operator =>
      oneOf (mark '+') [mark '-', mark '*', mark '/', mark '&', mark '|', mark '<', mark '>',
        mark '=']

/-! ### Derivations -/

namespace Ebnf

/-- `Derives e row`: the row of trees is a derivation from the expression. -/
inductive Derives : Ebnf → List Tree → Prop
  | token (token : Token) : Derives (.token token.kind) [.leaf token]
  | node {name : Nonterminal} {phrase : Phrase} {row : List Tree} :
      name.phrase? = some phrase → Derives name.production row →
      Derives (.name name) [.node phrase row]
  | inlined {name : Nonterminal} {row : List Tree} :
      name.phrase? = none → Derives name.production row → Derives (.name name) row
  | seq {first second : Ebnf} {row row' : List Tree} :
      Derives first row → Derives second row' → Derives (.seq first second) (row ++ row')
  | left {first : Ebnf} (second : Ebnf) {row : List Tree} :
      Derives first row → Derives (.choice first second) row
  | right (first : Ebnf) {second : Ebnf} {row : List Tree} :
      Derives second row → Derives (.choice first second) row
  | absent (body : Ebnf) : Derives (.optional body) []
  | present {body : Ebnf} {row : List Tree} : Derives body row → Derives (.optional body) row
  | done (body : Ebnf) : Derives (.many body) []
  | more {body : Ebnf} {row row' : List Tree} :
      Derives body row → Derives (.many body) row' → Derives (.many body) (row ++ row')

variable {first second body : Ebnf} {row : List Tree}

theorem token_iff {kind : Kind} : Derives (.token kind) row ↔
    ∃ token : Token, token.kind = kind ∧ row = [.leaf token] := by
  constructor
  · intro h
    cases h with
    | token token => exact ⟨token, rfl, rfl⟩
  · rintro ⟨token, rfl, rfl⟩
    exact .token token

theorem name_iff_of_node (name : Nonterminal) {phrase : Phrase}
    (named : name.phrase? = some phrase) :
    Derives (.name name) row ↔
      ∃ parts, Derives name.production parts ∧ row = [.node phrase parts] := by
  constructor
  · intro h
    cases h with
    | node named' h =>
        cases Option.some.inj (named.symm.trans named')
        exact ⟨_, h, rfl⟩
    | inlined unnamed h =>
        rw [named] at unnamed
        cases unnamed
  · rintro ⟨parts, h, rfl⟩
    exact .node named h

theorem name_iff_of_inlined (name : Nonterminal) (unnamed : name.phrase? = none) :
    Derives (.name name) row ↔ Derives name.production row := by
  constructor
  · intro h
    cases h with
    | node named h =>
        rw [unnamed] at named
        cases named
    | inlined _ h => exact h
  · exact .inlined unnamed

theorem seq_iff : Derives (.seq first second) row ↔
    ∃ left right, Derives first left ∧ Derives second right ∧ row = left ++ right := by
  constructor
  · intro h
    cases h with
    | seq h₁ h₂ => exact ⟨_, _, h₁, h₂, rfl⟩
  · rintro ⟨left, right, h₁, h₂, rfl⟩
    exact .seq h₁ h₂

theorem choice_iff : Derives (.choice first second) row ↔
    Derives first row ∨ Derives second row := by
  constructor
  · intro h
    cases h with
    | left _ h => exact Or.inl h
    | right _ h => exact Or.inr h
  · rintro (h | h)
    · exact .left second h
    · exact .right first h

theorem optional_iff : Derives (.optional body) row ↔ row = [] ∨ Derives body row := by
  constructor
  · intro h
    cases h with
    | absent => exact Or.inl rfl
    | present h => exact Or.inr h
  · rintro (rfl | h)
    · exact .absent body
    · exact .present h

/-- The tokens that a row derived from an expression may begin with. -/
def Begins (e : Ebnf) (token : Token) : Prop :=
  ∃ row rest, Derives e row ∧ tokensAll row = token :: rest

end Ebnf

/-- The expression of the grammar that a diagnostic asks for; none is asked for at the end. -/
def Expected.construct? : Expected → Option Ebnf
  | .keyword word => some (.word word)
  | .symbol character => some (.mark character)
  | .identifier => some .identifier
  | .type => some (.name .type)
  | .returnType => some (.choice (.word .void) (.name .type))
  | .term => some (.name .term)
  | .endOfInput => none

/-! ### Sentences -/

/-- The token sequences of classes. -/
def IsSentence (tokens : List Token) : Prop :=
  ∃ tree, Ebnf.Derives (.name .«class») [tree] ∧ tree.tokens = tokens

/-- The token sequences that can be continued to a class. -/
def IsViablePrefix (tokens : List Token) : Prop := ∃ rest, IsSentence (tokens ++ rest)

end JackSyntax
