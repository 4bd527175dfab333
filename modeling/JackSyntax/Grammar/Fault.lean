/-
**Why a source cannot be read.**

Main definitions:

* `maxNesting` — how deep a source may be nested;
* `Fault` — the causes: a lexical fault, something that is missing, or nesting that is too deep;
* `CompileError` — a cause on its line, and `CompileError.message` — its diagnostic.
-/

import JackSyntax.Grammar.Terminal
import JackSyntax.Source.Cursor

set_option relaxedAutoImplicit false
set_option autoImplicit false

namespace JackSyntax

/-- The number of recursive phrases that may be open at the same time. -/
def maxNesting : Nat := 128

/-- Why a source cannot be read. -/
inductive Fault where
  | lexical (fault : LexFault)
  /-- Something was missing; the token found in its place, if the source had not ended. -/
  | unexpected (expected : Expected) (found : Option Token)
  | nestingTooDeep
  deriving DecidableEq

/-- The text of a diagnostic. -/
def Fault.message : Fault → String
  | .lexical fault => fault.message
  | .unexpected expected found =>
      "expected " ++ expected.describe ++ ", found " ++
        (match found with
          | some token => token.describe
          | none => "end of input")
  | .nestingTooDeep => "nesting too deep (limit " ++ toString maxNesting ++ ")"

/-- The error of a source that cannot be read: its cause, on its line. -/
abbrev CompileError := Located Fault

/-- The diagnostic of a source that cannot be read. -/
def CompileError.message (error : CompileError) : String := atLine error.line error.item.message

end JackSyntax
