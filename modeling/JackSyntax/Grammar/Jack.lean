/-
**The grammar of Jack.**

    class           = 'class' identifier '{' classVarDec* subroutineDec* '}'
    classVarDec     = ('static' | 'field') type identifier (',' identifier)* ';'
    subroutineDec   = ('constructor' | 'function' | 'method') ('void' | type) identifier
                      '(' parameterList ')' subroutineBody
    parameterList   = (type identifier (',' type identifier)*)?
    subroutineBody  = '{' varDec* statements '}'
    varDec          = 'var' type identifier (',' identifier)* ';'
    statements      = (letStatement | ifStatement | whileStatement | doStatement
                      | returnStatement)*
    letStatement    = 'let' identifier ('[' expression ']')? '=' expression ';'
    ifStatement     = 'if' '(' expression ')' '{' statements '}'
                      ('else' '{' statements '}')?
    whileStatement  = 'while' '(' expression ')' '{' statements '}'
    doStatement     = 'do' identifier ('.' identifier)? '(' expressionList ')' ';'
    returnStatement = 'return' expression? ';'
    expression      = term (operator term)*
    term            = constant | identifier tail | '(' expression ')' | unaryOperator term
    tail            = '.' identifier '(' expressionList ')' | '[' expression ']'
                      | '(' expressionList ')' | nothing
    expressionList  = (expression (',' expression)*)?

Operators have no precedence: an expression is a flat row of terms.

Main definitions:

* `Grammar.classBody` — the rule of a class, without its node;
* `Grammar.body` — the rules of the two recursive phrases.
-/

import JackSyntax.Grammar.Rule

set_option relaxedAutoImplicit false
set_option autoImplicit false

namespace JackSyntax.Grammar

open Rule

/-! ### Expressions -/

/-- A term; anything that cannot begin one is refused. -/
def term : Rule := .branch .term (.nested .term) (.refuse .term)

/-- Terms with operators between them. -/
def expression : Rule :=
  .element .expression (.seq term (.loop .operator (.seq (.token .operator) term)))

/-- The expressions before a closing parenthesis. -/
def expressionList : Rule :=
  .element .expressionList (unlessNext (.symbol ')') (commaSeparated expression))

/-- The arguments of a call. -/
def arguments : Rule := bracketed '(' expressionList ')'

/-- The index of an array. -/
def index : Rule := bracketed '[' expression ']'

/-- What may follow a name inside a term: a call of a member, an index, a call, or nothing. -/
def nameTail : Rule :=
  .branch (.symbol '.') (sequence [symbol '.', identifier, arguments])
    (.branch (.symbol '[') index (whenNext (.symbol '(') arguments))

/-- The inside of a term. -/
def termBody : Rule :=
  .element .term
    (.branch .identifier (.seq identifier nameTail)
      (.branch (.symbol '(') (bracketed '(' expression ')')
        (.branch .unaryOperator (.seq (.token .unaryOperator) term) (.token .constant))))

/-! ### Statements -/

/-- A row of statements. -/
def statements : Rule := .nested .statements

/-- Statements in braces. -/
def block : Rule := bracketed '\x7b' statements '\x7d'

/-- A condition in parentheses. -/
def condition : Rule := bracketed '(' expression ')'

/-- An assignment to a variable or to an element of an array. -/
def letStatement : Rule :=
  .element .letStatement
    (sequence [keyword .«let», identifier, whenNext (.symbol '[') index, symbol '=', expression,
      symbol ';'])

/-- A choice, with or without an alternative. -/
def ifStatement : Rule :=
  .element .ifStatement
    (sequence [keyword .«if», condition, block,
      whenNext (.keyword .«else») (.seq (keyword .«else») block)])

/-- A repetition. -/
def whileStatement : Rule :=
  .element .whileStatement (sequence [keyword .«while», condition, block])

/-- A call for its effect. -/
def doStatement : Rule :=
  .element .doStatement
    (sequence [keyword .«do», identifier, whenNext (.symbol '.') (.seq (symbol '.') identifier),
      arguments, symbol ';'])

/-- The end of a subroutine, with or without a value. -/
def returnStatement : Rule :=
  .element .returnStatement
    (sequence [keyword .«return», unlessNext (.symbol ';') expression, symbol ';'])

/-- One statement, chosen by its keyword. -/
def statement : Rule :=
  .branch (.keyword .«let») letStatement
    (.branch (.keyword .«if») ifStatement
      (.branch (.keyword .«while») whileStatement
        (.branch (.keyword .«do») doStatement returnStatement)))

/-- The inside of a row of statements. -/
def statementsBody : Rule := .element .statements (.loop .statement statement)

/-- The rules of the recursive phrases. -/
def body : Recursive → Rule
  | .term => termBody
  | .statements => statementsBody

/-! ### Declarations -/

/-- One or more names. -/
def names : Rule := commaSeparated identifier

/-- A variable of a class or of its objects. -/
def classVarDec : Rule :=
  .element .classVarDec
    (sequence [.token .classVarKind, .token .type, names, symbol ';'])

/-- A local variable. -/
def varDec : Rule :=
  .element .varDec (sequence [keyword .var, .token .type, names, symbol ';'])

/-- The parameters before a closing parenthesis. -/
def parameterList : Rule :=
  .element .parameterList
    (unlessNext (.symbol ')') (commaSeparated (.seq (.token .type) identifier)))

/-- Local variables and statements in braces. -/
def subroutineBody : Rule :=
  .element .subroutineBody
    (sequence [symbol '\x7b', .loop (.keyword .var) varDec, statements, symbol '\x7d'])

/-- A constructor, function or method. -/
def subroutineDec : Rule :=
  .element .subroutineDec
    (sequence [.token .subroutineKind, .token .returnType, identifier, symbol '(',
      parameterList, symbol ')', subroutineBody])

/-- The parts of a class. -/
def classBody : Rule :=
  sequence [keyword .«class», identifier, symbol '\x7b', .loop .classVarKind classVarDec,
    .loop .subroutineKind subroutineDec, symbol '\x7d']

end JackSyntax.Grammar
