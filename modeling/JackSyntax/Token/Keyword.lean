/-
**The keywords of Jack.**

Main definitions:

* `Keyword` — the twenty-one reserved words;
* `Keyword.all` — their list, in the order of the language's reference: program structure,
  types, declarations, statements, constants;
* `Keyword.spelling` — how a keyword is written;
* `Keyword.ofSpelling?` — the keyword with a given spelling.

Main results:

* `Keyword.ofSpelling?_spelling`, `Keyword.spelling_of_ofSpelling?` — reading a spelling and
  writing it are inverse to each other.
-/

set_option relaxedAutoImplicit false
set_option autoImplicit false

namespace JackSyntax

/-- A reserved word. -/
inductive Keyword where
  | «class» | method | function | constructor
  | int | boolean | char | void
  | var | static | field
  | «let» | «do» | «if» | «else» | «while» | «return»
  | true | false | null | this
  deriving DecidableEq

namespace Keyword

/-- All keywords, in the order of the language's reference. -/
def all : List Keyword :=
  [.«class», .method, .function, .constructor,
   .int, .boolean, .char, .void,
   .var, .static, .field,
   .«let», .«do», .«if», .«else», .«while», .«return»,
   .true, .false, .null, .this]

/-- How a keyword is written. -/
def spelling : Keyword → String
  | .«class» => "class"
  | .method => "method"
  | .function => "function"
  | .constructor => "constructor"
  | .int => "int"
  | .boolean => "boolean"
  | .char => "char"
  | .void => "void"
  | .var => "var"
  | .static => "static"
  | .field => "field"
  | .«let» => "let"
  | .«do» => "do"
  | .«if» => "if"
  | .«else» => "else"
  | .«while» => "while"
  | .«return» => "return"
  | .true => "true"
  | .false => "false"
  | .null => "null"
  | .this => "this"

/-- The keyword that is written exactly like `word`, if there is one. -/
def ofSpelling? (word : String) : Option Keyword := all.find? fun k => k.spelling == word

@[simp] theorem ofSpelling?_spelling (k : Keyword) : ofSpelling? k.spelling = some k := by
  cases k <;> decide

theorem spelling_of_ofSpelling? {word : String} {k : Keyword} (h : ofSpelling? word = some k) :
    k.spelling = word := by
  simpa using List.find?_some h

end Keyword

end JackSyntax
