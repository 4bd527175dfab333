/-
**Reading along a rule.**

A scan is read along a rule with one token of lookahead.  The reading never goes back: once a token
is read, what the rule asks for next has to follow.  The lookahead is loaded as soon as it is needed
to stand there, so a lexical error shows when the token before it has been read.

Main definitions:

* `Failure` — a fault together with the tokens that had not been read when it arose;
* `Reading` — the tokens ahead and the trees that were read;
* `Rule.readWith` — reading along a rule, given a reading of the recursive phrases;
* `Rule.read` — reading with a given number of levels allowed.
-/

import JackSyntax.Grammar.Fault
import JackSyntax.Grammar.Jack
import JackSyntax.Source.Scan

set_option relaxedAutoImplicit false
set_option autoImplicit false

namespace JackSyntax

/-- A fault, and what remained to be read when it arose. -/
structure Failure where
  fault : Fault
  ahead : Scan
  deriving DecidableEq

/-- A failure is reported on the line of the lookahead. -/
def Failure.error (failure : Failure) : CompileError := ⟨failure.ahead.line, failure.fault⟩

/-- The scan, if its lookahead can be loaded: there is a next token or the source ends. -/
def Scan.load (s : Scan) : Except Failure Scan :=
  match s.tokens, s.ending with
  | [], .failed error => .error ⟨.lexical error.item, s⟩
  | _, _ => .ok s

/-- How far a scan has been read. -/
structure Reading where
  /-- What remains to be read; its first token is the lookahead. -/
  ahead : Scan
  /-- The trees read so far inside the innermost open phrase, latest first. -/
  trees : List Tree

namespace Reading

/-- Whether the lookahead belongs to a class. -/
def sees (r : Reading) (terminal : Terminal) : Bool := r.ahead.lookahead.any terminal.admits

/-- Fails for want of something. -/
def missing (r : Reading) (expected : Expected) : Except Failure Reading :=
  .error ⟨.unexpected expected r.ahead.lookahead, r.ahead⟩

/-- Reads the lookahead as a leaf and loads the next token. -/
def shift (r : Reading) : Except Failure Reading :=
  match r.ahead.tokens with
  | [] => .ok r
  | token :: tokens => do
      let ahead ← Scan.load ⟨tokens, r.ahead.ending⟩
      .ok ⟨ahead, .leaf token.item :: r.trees⟩

/-- Reads a token of a class. -/
def take (terminal : Terminal) (r : Reading) : Except Failure Reading :=
  if r.sees terminal then r.shift else r.missing terminal.expected

/-- Reads the parts of a phrase as its node. -/
def enclose (phrase : Phrase) (body : Reading → Except Failure Reading) (r : Reading) :
    Except Failure Reading := do
  let inner ← body ⟨r.ahead, []⟩
  .ok ⟨inner.ahead, .node phrase inner.trees.reverse :: r.trees⟩

/-- Repeats a reading as long as the lookahead belongs to a class.  Every round reads a token, so
there are no more rounds than tokens: `rounds` is a list at least as long as what is ahead. -/
def repeatWhile (terminal : Terminal) (body : Reading → Except Failure Reading) :
    List (Located Token) → Reading → Except Failure Reading
  | [], r => .ok r
  | _ :: rounds, r =>
      if r.sees terminal then do
        let next ← body r
        repeatWhile terminal body rounds next
      else .ok r

end Reading

namespace Rule

/-- Reads along a rule.  The recursive phrases are read by `deeper`. -/
def readWith (deeper : Recursive → Reading → Except Failure Reading) :
    Rule → Reading → Except Failure Reading
  | .empty, r => .ok r
  | .token terminal, r => r.take terminal
  | .refuse terminal, r => r.missing terminal.expected
  | .seq first second, r => do
      let next ← readWith deeper first r
      readWith deeper second next
  | .element phrase body, r => r.enclose phrase (readWith deeper body)
  | .branch terminal yes no, r =>
      if r.sees terminal then readWith deeper yes r else readWith deeper no r
  | .loop terminal body, r =>
      r.repeatWhile terminal (readWith deeper body) r.ahead.tokens
  | .nested phrase, r => deeper phrase r

/-- Reads along a rule with at most `levels` recursive phrases open at the same time. -/
def read : Nat → Rule → Reading → Except Failure Reading
  | 0 => readWith fun _ r => .error ⟨.nestingTooDeep, r.ahead⟩
  | levels + 1 => readWith fun phrase => read levels (Grammar.body phrase)

end Rule

end JackSyntax
