/-
**Compiling an input and writing its outputs.**

An input has one output or two: its syntax tree and, on request, its token listing.  Both are named
after the input and stand beside it or in a directory of their own.  If the name of the input is no
text, they are named after the text as which it is shown, so that inputs with different names may
have the same outputs.

Main definitions:

* `Compiled` — the texts that an input gives, and `compile` — those of a source;
* `Path.shownStem`, `outputPath` — what outputs are named after, and where one goes;
* `Compiled.texts`, `Compiled.outputs` — the texts as they are printed and as they are written;
* `compileFile`, `writeOutputs`, `analyzeFile` — reading an input, writing its outputs, and both.
-/

import JackSyntax.Analysis.Error
import JackSyntax.Markup.Listing

set_option relaxedAutoImplicit false
set_option autoImplicit false

namespace JackSyntax

/-- The extension of outputs. -/
def outputExtension : String := "xml"

/-- The texts that an input gives. -/
structure Compiled where
  tree : String
  tokens : Option String
  deriving DecidableEq

/-- The texts of a source; its tokens are listed on request only. -/
def compile (withTokens : Bool) (source : String) : Except CompileError Compiled := do
  let tree ← parse source
  if withTokens then
    match tokenListing source with
    | .ok listing => .ok ⟨tree, some listing⟩
    | .error error => .error ⟨error.line, .lexical error.item⟩
  else
    .ok ⟨tree, none⟩

/-- The stem of a path as it is shown. -/
def Path.shownStem (p : Path) : String := lossy (p.stem?.getD [])

/-- The path of an output: the stem of the input as it is shown, a suffix and the extension of
outputs, in the given directory or beside the input. -/
def outputPath (input : Path) (directory? : Option Path) (suffix : String) : Path :=
  let name := input.shownStem ++ suffix ++ "." ++ outputExtension
  match directory? with
  | some directory => directory.join name
  | none => input.withFileName name

/-- The texts of an input in the order in which they are printed: the listing comes first. -/
def Compiled.texts (compiled : Compiled) : List String := compiled.tokens.toList ++ [compiled.tree]

/-- The outputs of an input, in the order in which they are written: the tree comes first. -/
def Compiled.outputs (compiled : Compiled) (input : Path) (directory? : Option Path) :
    List (Path × String) :=
  (outputPath input directory? "", compiled.tree) ::
    (compiled.tokens.map fun listing => (outputPath input directory? "T", listing)).toList

section

variable {m : Type → Type} [Monad m] [MonadFiles m]

/-- Reads and compiles an input. -/
def compileFile (withTokens : Bool) (input : Path) : m (Except AnalysisError Compiled) := do
  match ← MonadFiles.read input with
  | .error error => return .error (.system input error)
  | .ok bytes =>
      match String.fromUTF8? bytes with
      | none => return .error (.notText input)
      | some source => return (compile withTokens source).mapError (.compile input)

/-- Writes outputs until one fails.  The result lists their paths. -/
def writeOutputs : List (Path × String) → m (Except AnalysisError (List Path))
  | [] => return .ok []
  | (path, text) :: outputs => do
      match ← MonadFiles.write path text.toUTF8 with
      | .error error => return .error (.system path error)
      | .ok () => return (← writeOutputs outputs).map (path :: ·)

/-- Reads an input, compiles it and writes its outputs. -/
def analyzeFile (withTokens : Bool) (directory? : Option Path) (input : Path) :
    m (Except AnalysisError (List Path)) := do
  match ← compileFile withTokens input with
  | .error error => return .error error
  | .ok compiled => writeOutputs (compiled.outputs input directory?)

end

end JackSyntax
