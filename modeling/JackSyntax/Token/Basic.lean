/-
**Tokens.**

Main definitions:

* `Token` — the five kinds of token, each with its value;
* `Token.tag`, `Token.lexeme`, `Token.describe` — the name of its kind, its text, and the two
  together as a diagnostic shows them;
* `symbols`, `operators`, `unaryOperators` — the nineteen symbols and the two classes of
  operators among them;
* `Token.isKeyword`, `Token.isSymbol`, `Token.isOperator`, `Token.isUnaryOperator` — tests.
-/

import JackSyntax.Token.Keyword

set_option relaxedAutoImplicit false
set_option autoImplicit false

namespace JackSyntax

/-- A lexical unit of a source. -/
inductive Token where
  | keyword (word : Keyword)
  | symbol (character : Char)
  /-- A decimal integer constant; the machine has sixteen bits. -/
  | integerConstant (value : UInt16)
  /-- A string constant, given by the text between its quotes. -/
  | stringConstant (text : String)
  | identifier (name : String)
  deriving DecidableEq

/-- The characters that are tokens by themselves. -/
def symbols : String := "\x7b\x7d()[].,;+-*/&|<>=~"

/-- The symbols that join two terms. -/
def operators : String := "+-*/&|<>="

/-- The symbols that may stand before a term. -/
def unaryOperators : String := "-~"

namespace Token

/-- The name of the kind of a token. -/
def tag : Token → String
  | .keyword _ => "keyword"
  | .symbol _ => "symbol"
  | .integerConstant _ => "integerConstant"
  | .stringConstant _ => "stringConstant"
  | .identifier _ => "identifier"

/-- The text of a token, without the quotes of a string constant. -/
def lexeme : Token → String
  | .keyword word => word.spelling
  | .symbol character => character.toString
  | .integerConstant value => toString value.toNat
  | .stringConstant text => text
  | .identifier name => name

/-- A token as a diagnostic shows it: its kind and its text, in double quotes for a string
constant and in single quotes otherwise. -/
def describe : Token → String
  | .stringConstant text => "stringConstant \"" ++ text ++ "\""
  | token => token.tag ++ " '" ++ token.lexeme ++ "'"

/-- Whether a token is the given keyword. -/
def isKeyword (word : Keyword) : Token → Bool
  | .keyword k => k == word
  | _ => false

/-- Whether a token is the given symbol. -/
def isSymbol (character : Char) : Token → Bool
  | .symbol c => c == character
  | _ => false

/-- Whether a token can join two terms. -/
def isOperator : Token → Bool
  | .symbol c => operators.toList.contains c
  | _ => false

/-- Whether a token can stand before a term. -/
def isUnaryOperator : Token → Bool
  | .symbol c => unaryOperators.toList.contains c
  | _ => false

end Token

end JackSyntax
