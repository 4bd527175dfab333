/-
**Grammar rules.**

A rule describes a row of trees.  Wherever a rule leaves a choice, it names the class of tokens for
which the first possibility is meant, so that one token is enough to decide.  Rules refer to each
other through two recursive phrases only; every such reference is one level of nesting.

Main definitions:

* `Recursive` — the phrases through which rules recur;
* `Rule` — the rules;
* `Rule.sequence`, `Rule.whenNext`, `Rule.unlessNext` — rules one after the other, and rules
  that the next token includes or leaves out.
-/

import JackSyntax.Grammar.Terminal
import JackSyntax.Grammar.Tree

set_option relaxedAutoImplicit false
set_option autoImplicit false

namespace JackSyntax

/-- The phrases that can contain themselves. -/
inductive Recursive where
  | term
  | statements
  deriving DecidableEq

/-- A description of a row of trees. -/
inductive Rule where
  /-- No tree. -/
  | empty
  /-- The leaf of a token of a class. -/
  | token (terminal : Terminal)
  /-- No row at all: a token of the class is missing. -/
  | refuse (terminal : Terminal)
  /-- What the first rule describes, then what the second describes. -/
  | seq (first second : Rule)
  /-- The node of a phrase over what a rule describes. -/
  | element (phrase : Phrase) (body : Rule)
  /-- Either of two possibilities, the first if the next token belongs to the class. -/
  | branch (terminal : Terminal) (yes no : Rule)
  /-- Any number of repetitions, one more whenever the next token belongs to the class. -/
  | loop (terminal : Terminal) (body : Rule)
  /-- What a recursive phrase describes, one level deeper. -/
  | nested (phrase : Recursive)

namespace Rule

/-- Rules one after the other. -/
def sequence : List Rule → Rule
  | [] => .empty
  | [rule] => rule
  | rule :: rules => .seq rule (sequence rules)

/-- A rule that is left out unless the next token belongs to the class. -/
def whenNext (terminal : Terminal) (rule : Rule) : Rule := .branch terminal rule .empty

/-- A rule that is left out if the next token belongs to the class. -/
def unlessNext (terminal : Terminal) (rule : Rule) : Rule := .branch terminal .empty rule

/-- The leaf of a keyword. -/
def keyword (word : Keyword) : Rule := .token (.keyword word)

/-- The leaf of a symbol. -/
def symbol (character : Char) : Rule := .token (.symbol character)

/-- The leaf of an identifier. -/
def identifier : Rule := .token .identifier

/-- One or more of the same, with commas between them. -/
def commaSeparated (rule : Rule) : Rule :=
  .seq rule (.loop (.symbol ',') (.seq (symbol ',') rule))

/-- A rule between two brackets. -/
def bracketed (left : Char) (rule : Rule) (right : Char) : Rule :=
  sequence [symbol left, rule, symbol right]

end Rule

end JackSyntax
