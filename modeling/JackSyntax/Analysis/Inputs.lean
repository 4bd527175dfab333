/-
**The inputs that a path names.**

Main definitions:

* `Path.isSource` — whether a path has the extension of source files;
* `sortNames` — names in ascending order;
* `inputsAt` — the source file that a path leads to, or the source files directly inside the
  directory that it leads to, in ascending order of their names.
-/

import JackSyntax.Analysis.Error

set_option relaxedAutoImplicit false
set_option autoImplicit false

namespace JackSyntax

/-- The extension of source files. -/
def sourceExtension : String := "jack"

/-- Whether a path has the extension of source files. -/
def Path.isSource (p : Path) : Bool := p.extension? == some (bytesOf sourceExtension)

/-- Puts a name in front of the first name that is not smaller. -/
def insertName (name : Bytes) : List Bytes → List Bytes
  | [] => [name]
  | other :: names => if name ≤ other then name :: other :: names else other :: insertName name names

/-- Names in ascending order of their bytes. -/
def sortNames : List Bytes → List Bytes
  | [] => []
  | name :: names => insertName name (sortNames names)

section

variable {m : Type → Type} [Monad m] [MonadFiles m]

/-- The source files among the names inside a directory, in the order of the names. -/
def sourcesAmong (directory : Path) : List Bytes → m (List Path)
  | [] => return []
  | name :: names => do
      let path := directory.join name
      let isInput ← isFile path
      let others ← sourcesAmong directory names
      return if isInput && path.isSource then path :: others else others

/-- The inputs that a path names. -/
def inputsAt (path : Path) : m (Except AnalysisError (List Path)) := do
  if ← isDirectory path then
    match ← MonadFiles.list path with
    | .ok names => return .ok (← sourcesAmong path (sortNames names))
    | .error error => return .error (.system path error)
  else if ← isFile path then
    return if path.isSource then .ok [path] else .error (.invalidPath path)
  else
    return .error (.invalidPath path)

end

end JackSyntax
