/-
**Classes of tokens that a grammar asks for.**

Main definitions:

* `Terminal` — the classes of tokens that the rules of the grammar name;
* `Terminal.admits` — whether a token belongs to a class;
* `Expected` — what a diagnostic says was missing;
* `Terminal.expected` — what is missing where no token of a class is found.
-/

import JackSyntax.Token.Basic

set_option relaxedAutoImplicit false
set_option autoImplicit false

namespace JackSyntax

/-- A class of tokens. -/
inductive Terminal where
  | keyword (word : Keyword)
  | symbol (character : Char)
  | identifier
  /-- A basic type or the name of a class. -/
  | type
  /-- `void` or a type. -/
  | returnType
  /-- `static` or `field`. -/
  | classVarKind
  /-- `constructor`, `function` or `method`. -/
  | subroutineKind
  /-- A keyword that begins a statement. -/
  | statement
  /-- A token that begins a term. -/
  | term
  /-- A term that is a single token other than an identifier. -/
  | constant
  | operator
  | unaryOperator
  deriving DecidableEq

namespace Terminal

/-- Whether a token belongs to a class. -/
def admits : Terminal → Token → Bool
  | .keyword word, token => token.isKeyword word
  | .symbol character, token => token.isSymbol character
  | .identifier, .identifier _ => true
  | .type, .identifier _ => true
  | .type, .keyword word => [Keyword.int, .char, .boolean].contains word
  | .returnType, .identifier _ => true
  | .returnType, .keyword word => [Keyword.void, .int, .char, .boolean].contains word
  | .classVarKind, .keyword word => [Keyword.static, .field].contains word
  | .subroutineKind, .keyword word => [Keyword.constructor, .function, .method].contains word
  | .statement, .keyword word =>
      [Keyword.«let», .«if», .«while», .«do», .«return»].contains word
  | .term, .identifier _ => true
  | .term, .integerConstant _ => true
  | .term, .stringConstant _ => true
  | .term, .keyword word => [Keyword.true, .false, .null, .this].contains word
  | .term, .symbol character =>
      character == '(' || (Token.symbol character).isUnaryOperator
  | .constant, .integerConstant _ => true
  | .constant, .stringConstant _ => true
  | .constant, .keyword word => [Keyword.true, .false, .null, .this].contains word
  | .operator, token => token.isOperator
  | .unaryOperator, token => token.isUnaryOperator
  | _, _ => false

end Terminal

/-- What a diagnostic says was missing. -/
inductive Expected where
  | keyword (word : Keyword)
  | symbol (character : Char)
  | identifier
  | type
  | returnType
  | term
  | endOfInput
  deriving DecidableEq

/-- The words of a diagnostic for what was missing. -/
def Expected.describe : Expected → String
  | .keyword word => "keyword '" ++ word.spelling ++ "'"
  | .symbol character => "symbol '" ++ character.toString ++ "'"
  | .identifier => "identifier"
  | .type => "type"
  | .returnType => "'void' or type"
  | .term => "term"
  | .endOfInput => "end of input"

/-- What is missing where no token of a class is found.  A class of keywords or symbols without a
name of its own is represented by its first member. -/
def Terminal.expected : Terminal → Expected
  | .keyword word => .keyword word
  | .symbol character => .symbol character
  | .identifier => .identifier
  | .type => .type
  | .returnType => .returnType
  | .classVarKind => .keyword .static
  | .subroutineKind => .keyword .constructor
  | .statement => .keyword .«let»
  | .term => .term
  | .constant => .term
  | .operator => .symbol '+'
  | .unaryOperator => .symbol '-'

end JackSyntax
