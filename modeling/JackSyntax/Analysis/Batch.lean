/-
**Analyzing all inputs of a path.**

Main definitions:

* `analyzeAll` — the analysis of inputs one after the other;
* `analyzePath` — the analysis of all inputs that a path names.
-/

import JackSyntax.Analysis.Inputs
import JackSyntax.Analysis.Outputs

set_option relaxedAutoImplicit false
set_option autoImplicit false

namespace JackSyntax

variable {m : Type → Type} [Monad m] [MonadFiles m]

/-- Analyzes inputs one after the other.  A failure does not keep the others from being
analyzed. -/
def analyzeAll (withTokens : Bool) (directory? : Option Path) :
    List Path → m (List (Path × Except AnalysisError (List Path)))
  | [] => return []
  | input :: inputs => do
      let result ← analyzeFile withTokens directory? input
      let others ← analyzeAll withTokens directory? inputs
      return (input, result) :: others

/-- Analyzes all inputs that a path names. -/
def analyzePath (withTokens : Bool) (directory? : Option Path) (path : Path) :
    m (Except AnalysisError (List (Path × Except AnalysisError (List Path)))) := do
  match ← inputsAt path with
  | .error error => return .error error
  | .ok inputs => return .ok (← analyzeAll withTokens directory? inputs)

end JackSyntax
