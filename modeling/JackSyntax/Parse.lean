/-
**Parsing a source.**

Main definitions:

* `parseTree` — the syntax tree of a source with at most a given number of levels;
* `parse` — the text of the syntax tree of a source.
-/

import JackSyntax.Grammar.Reading

set_option relaxedAutoImplicit false
set_option autoImplicit false

namespace JackSyntax

/-- Reads the tokens of a whole source as one class with at most `levels` levels of nesting. -/
def Scan.readClass (levels : Nat) (s : Scan) : Except Failure Tree := do
  let ahead ← s.load
  let r ← Grammar.classBody.read levels ⟨ahead, []⟩
  if r.ahead.lookahead.isSome then .error ⟨.unexpected .endOfInput r.ahead.lookahead, r.ahead⟩
  else .ok (.node .classDec r.trees.reverse)

/-- The syntax tree of a source that consists of one class, with at most `levels` recursive
phrases open at the same time. -/
def parseTree (levels : Nat) (source : String) : Except CompileError Tree :=
  ((scan source).readClass levels).mapError Failure.error

/-- The text of the syntax tree of a source, or the first error in it. -/
def parse (source : String) : Except CompileError String :=
  (parseTree maxNesting source).map Tree.render

end JackSyntax
