/-
**Why an input cannot be analyzed.**

Main definitions:

* `AnalysisError` — the causes, each with the path that it concerns;
* `AnalysisError.message` — the text of a cause, which begins with the path.
-/

import JackSyntax.FileSystem.Access
import JackSyntax.Parse

set_option relaxedAutoImplicit false
set_option autoImplicit false

namespace JackSyntax

/-- Why an input cannot be analyzed. -/
inductive AnalysisError where
  /-- The path leads to no source file and to no directory. -/
  | invalidPath (path : Path)
  /-- An operation on the path failed. -/
  | system (path : Path) (error : SystemError)
  /-- The bytes of the source are no text. -/
  | notText (path : Path)
  /-- The source cannot be compiled. -/
  | compile (path : Path) (error : CompileError)
  deriving DecidableEq

namespace AnalysisError

/-- The path that failed. -/
def path : AnalysisError → Path
  | .invalidPath path => path
  | .system path _ => path
  | .notText path => path
  | .compile path _ => path

/-- The cause alone. -/
def cause : AnalysisError → String
  | .invalidPath _ => "not a .jack file or directory"
  | .system _ error => error.message
  | .notText _ => "stream did not contain valid UTF-8"
  | .compile _ error => CompileError.message error

/-- The diagnostic of an input that cannot be analyzed. -/
def message (error : AnalysisError) : String := error.path.text ++ ": " ++ error.cause

end AnalysisError

end JackSyntax
