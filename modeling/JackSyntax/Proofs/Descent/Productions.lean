/-
**Recursive descent, one production at a time.**

`Rule.read` reads along a rule and gives trees; the text is written when all trees are there.  Here
is the same grammar in the form of procedures, one for each production, which write while they read.
They keep two counts, that of the recursive phrases that are entered and, in the writer, that of the
elements that are open.  Entering and leaving a recursive phrase, opening and closing an element are
moves of their own: nothing in the way a procedure is performed makes them come in pairs.

Procedures call each other.  A descent is performed with a budget of calls, of which every call
takes one for itself and all that is called inside it; loops are free.  Everything that is done on
the way is kept as a moment, with the productions that are active then.

Main definitions:

* `Production` — the productions; `Move`, `Action` — what a procedure is made of;
* `Production.body` — **the procedures**;
* `Descent` — how far a source has been read and written;
* `Descent.make` — what a move does;
* `Moment`, `Trace` — what is done, and how it ends;
* `Production.perform` — performing a procedure with a budget of calls;
* `descend` — a source is read as one class, `Trace.result` — with which result.
-/

import JackSyntax.Parse
import JackSyntax.Proofs.Reading.Runs

set_option relaxedAutoImplicit false
set_option autoImplicit false

namespace JackSyntax

/-! ### Procedures -/

/-- The productions that have a procedure of their own. -/
inductive Production where
  | classDec | classVarDec | names | subroutineDec | parameterList | subroutineBody | varDec
  | statements | letStatement | ifStatement | whileStatement | condition | block | doStatement
  | returnStatement | expression | term | nameTail | arguments | expressionList
  deriving DecidableEq

/-- What a procedure does without choices and calls. -/
inductive Move where
  /-- Writes the opening tag of a phrase. -/
  | opening (phrase : Phrase)
  /-- Writes the closing tag of a phrase. -/
  | closing (phrase : Phrase)
  /-- Enters a recursive phrase, unless too many are entered. -/
  | enter
  /-- Leaves a recursive phrase. -/
  | leave
  /-- Writes the lookahead and loads the next token. -/
  | advance
  /-- Advances if the lookahead belongs to the class, and fails otherwise. -/
  | expect (terminal : Terminal)
  /-- Fails for want of a token of the class. -/
  | refuse (terminal : Terminal)
  deriving DecidableEq

/-- What a procedure does. -/
inductive Action where
  | move (move : Move)
  /-- Does the one or the other, the first if the lookahead belongs to the class. -/
  | choose (terminal : Terminal) (yes no : List Action)
  /-- Repeats the same as long as the lookahead belongs to the class. -/
  | loop (terminal : Terminal) (body : List Action)
  | call (production : Production)

namespace Action

/-- Writes the opening tag of a phrase. -/
abbrev opening (phrase : Phrase) : Action := .move (.opening phrase)

/-- Writes the closing tag of a phrase. -/
abbrev closing (phrase : Phrase) : Action := .move (.closing phrase)

/-- Enters a recursive phrase. -/
abbrev enter : Action := .move .enter

/-- Leaves a recursive phrase. -/
abbrev leave : Action := .move .leave

/-- Reads whatever is the lookahead. -/
abbrev advance : Action := .move .advance

/-- Reads a token of a class. -/
abbrev expect (terminal : Terminal) : Action := .move (.expect terminal)

/-- Fails for want of a token of a class. -/
abbrev refuse (terminal : Terminal) : Action := .move (.refuse terminal)

/-- Reads a production between two brackets. -/
def bracketed (left : Char) (production : Production) (right : Char) : List Action :=
  [expect (.symbol left), .call production, expect (.symbol right)]

/-- Reads a declaration of variables, after a look at its first token. -/
def varDeclaration (phrase : Phrase) : List Action :=
  [opening phrase, advance, expect .type, .call .names, expect (.symbol ';'), closing phrase]

end Action

/-- The procedure of a production.  Where a caller has looked at the first token, the procedure just
advances over it. -/
def Production.body : Production → List Action
  | .classDec =>
      [.opening .classDec, .expect (.keyword .«class»), .expect .identifier, .expect (.symbol '\x7b'),
        .loop .classVarKind [.call .classVarDec], .loop .subroutineKind [.call .subroutineDec],
        .expect (.symbol '\x7d'), .closing .classDec]
  | .classVarDec => Action.varDeclaration .classVarDec
  | .names =>
      [.expect .identifier, .loop (.symbol ',') [.advance, .expect .identifier]]
  | .subroutineDec =>
      [.opening .subroutineDec, .advance, .choose .returnType [.advance] [.refuse .returnType],
        .expect .identifier, .expect (.symbol '('), .call .parameterList, .expect (.symbol ')'),
        .call .subroutineBody, .closing .subroutineDec]
  | .parameterList =>
      [.opening .parameterList,
        .choose (.symbol ')') []
          [.expect .type, .expect .identifier,
            .loop (.symbol ',') [.advance, .expect .type, .expect .identifier]],
        .closing .parameterList]
  | .subroutineBody =>
      [.opening .subroutineBody, .expect (.symbol '\x7b'), .loop (.keyword .var) [.call .varDec],
        .call .statements, .expect (.symbol '\x7d'), .closing .subroutineBody]
  | .varDec => Action.varDeclaration .varDec
  | .statements =>
      [.enter, .opening .statements,
        .loop .statement
          [.choose (.keyword .«let») [.call .letStatement]
            [.choose (.keyword .«if») [.call .ifStatement]
              [.choose (.keyword .«while») [.call .whileStatement]
                [.choose (.keyword .«do») [.call .doStatement] [.call .returnStatement]]]]],
        .closing .statements, .leave]
  | .letStatement =>
      [.opening .letStatement, .advance, .expect .identifier,
        .choose (.symbol '[') [.advance, .call .expression, .expect (.symbol ']')] [],
        .expect (.symbol '='), .call .expression, .expect (.symbol ';'), .closing .letStatement]
  | .ifStatement =>
      [.opening .ifStatement, .advance, .call .condition, .call .block,
        .choose (.keyword .«else») [.advance, .call .block] [], .closing .ifStatement]
  | .whileStatement =>
      [.opening .whileStatement, .advance, .call .condition, .call .block,
        .closing .whileStatement]
  | .condition => Action.bracketed '(' .expression ')'
  | .block => Action.bracketed '\x7b' .statements '\x7d'
  | .doStatement =>
      [.opening .doStatement, .advance, .expect .identifier,
        .choose (.symbol '.') [.advance, .expect .identifier] [], .call .arguments,
        .expect (.symbol ';'), .closing .doStatement]
  | .returnStatement =>
      [.opening .returnStatement, .advance, .choose (.symbol ';') [] [.call .expression],
        .expect (.symbol ';'), .closing .returnStatement]
  | .expression =>
      [.opening .expression, .call .term, .loop .operator [.advance, .call .term],
        .closing .expression]
  | .term =>
      [.choose .term [] [.refuse .term], .enter, .opening .term,
        .choose .identifier [.advance, .call .nameTail]
          [.choose (.symbol '(') [.advance, .call .expression, .expect (.symbol ')')]
            [.choose .unaryOperator [.advance, .call .term] [.advance]]],
        .closing .term, .leave]
  | .nameTail =>
      [.choose (.symbol '.') [.advance, .expect .identifier, .call .arguments]
        [.choose (.symbol '[') [.advance, .call .expression, .expect (.symbol ']')]
          [.choose (.symbol '(') [.call .arguments] []]]]
  | .arguments => Action.bracketed '(' .expressionList ')'
  | .expressionList =>
      [.opening .expressionList,
        .choose (.symbol ')') []
          [.call .expression, .loop (.symbol ',') [.advance, .call .expression]],
        .closing .expressionList]

/-! ### Moves -/

/-- How far a source has been read and written. -/
structure Descent where
  /-- What remains to be read; its first token is the lookahead. -/
  ahead : Scan
  /-- The number of recursive phrases that are entered. -/
  depth : Nat
  writer : Writer

/-- How something ends that is done in a descent. -/
inductive Exit where
  | returned (d : Descent)
  | failed (failure : Failure)
  /-- It does not end within its bounds: the budget of calls is used up, or a loop goes on after as
  many rounds as there were tokens ahead. -/
  | gaveUp

/-- What is done behind something that returned. -/
def Exit.andThen (e : Exit) (next : Descent → Exit) : Exit :=
  match e with
  | .returned d => next d
  | _ => e

namespace Descent

/-- Writes the lookahead and loads the next token. -/
def advance (d : Descent) : Exit :=
  match d.ahead.tokens with
  | [] => .returned d
  | token :: tokens =>
      match Scan.load ⟨tokens, d.ahead.ending⟩ with
      | .ok ahead => .returned ⟨ahead, d.depth, d.writer.write (.token token.item)⟩
      | .error failure => .failed failure

/-- Fails for want of a token of a class. -/
def missing (d : Descent) (terminal : Terminal) : Exit :=
  .failed ⟨.unexpected terminal.expected d.ahead.lookahead, d.ahead⟩

/-- What a move does. -/
def make (d : Descent) : Move → Exit
  | .opening phrase => .returned { d with writer := d.writer.write (.opening phrase.tag) }
  | .closing phrase => .returned { d with writer := d.writer.write (.closing phrase.tag) }
  | .enter =>
      if d.depth = maxNesting then .failed ⟨.nestingTooDeep, d.ahead⟩
      else .returned { d with depth := d.depth + 1 }
  | .leave => .returned { d with depth := d.depth - 1 }
  | .advance => d.advance
  | .expect terminal => if d.ahead.sees terminal then d.advance else d.missing terminal
  | .refuse terminal => d.missing terminal

end Descent

/-! ### Traces -/

/-- Something that is done in a descent. -/
structure Moment where
  /-- The productions that are active, innermost first. -/
  calls : List Production
  action : Action
  before : Descent
  exit : Exit

/-- All that is done in a part of a descent, and how it ends.  An action comes before the actions
inside it. -/
structure Trace where
  moments : List Moment
  exit : Exit

namespace Trace

/-- What is done behind something that returned. -/
def andThen (t : Trace) (next : Descent → Trace) : Trace :=
  match t.exit with
  | .returned d => ⟨t.moments ++ (next d).moments, (next d).exit⟩
  | _ => t

/-- Keeps an action as a moment, before the actions inside it. -/
def note (calls : List Production) (action : Action) (before : Descent) (t : Trace) : Trace :=
  ⟨⟨calls, action, before, t.exit⟩ :: t.moments, t.exit⟩

/-- Repeats the same as long as the lookahead belongs to a class.  Every round is expected to read a
token, so `rounds` is a list as long as what is ahead. -/
def repeatWhile (terminal : Terminal) (body : Descent → Trace) :
    List (Located Token) → Descent → Trace
  | [], d => ⟨[], if d.ahead.sees terminal then .gaveUp else .returned d⟩
  | _ :: rounds, d =>
      if d.ahead.sees terminal then (body d).andThen (repeatWhile terminal body rounds)
      else ⟨[], .returned d⟩

end Trace

mutual

/-- Performs an action while the productions of `calls` are active.  Calls are performed by
`call`. -/
def Action.perform (call : Production → Descent → Trace) (calls : List Production) :
    Action → Descent → Trace
  | .move step, d => .note calls (.move step) d ⟨[], d.make step⟩
  | .choose terminal yes no, d =>
      .note calls (.choose terminal yes no) d
        (if d.ahead.sees terminal then performAll call calls yes d else performAll call calls no d)
  | .loop terminal body, d =>
      .note calls (.loop terminal body) d
        (.repeatWhile terminal (performAll call calls body) d.ahead.tokens d)
  | .call production, d => .note calls (.call production) d (call production d)

/-- Performs actions one after the other. -/
def Action.performAll (call : Production → Descent → Trace) (calls : List Production) :
    List Action → Descent → Trace
  | [], d => ⟨[], .returned d⟩
  | action :: actions, d =>
      (perform call calls action d).andThen (performAll call calls actions)

end

/-- Performs the procedure of a production behind the active ones of `calls`.  The call takes one of
the budget, and all calls inside it share in what is left. -/
def Production.perform : Nat → List Production → Production → Descent → Trace
  | 0, _, _, _ => ⟨[], .gaveUp⟩
  | budget + 1, calls, production, d =>
      Action.performAll (perform budget (production :: calls)) (production :: calls)
        production.body d

/-- Reads a source as one class, with a budget of calls. -/
def descend (budget : Nat) (source : String) : Trace :=
  match (scan source).load with
  | .ok ahead =>
      Action.perform (Production.perform budget []) [] (.call .classDec) ⟨ahead, 0, .empty⟩
  | .error failure => ⟨[], .failed failure⟩

/-- The result of a descent that did not give up: nothing may stand behind the class. -/
def Trace.result (t : Trace) : Option (Except CompileError String) :=
  match t.exit with
  | .returned d =>
      if d.ahead.lookahead.isSome then
        some (.error ⟨d.ahead.line, .unexpected .endOfInput d.ahead.lookahead⟩)
      else some (.ok d.writer.text)
  | .failed failure => some (.error failure.error)
  | .gaveUp => none

end JackSyntax
