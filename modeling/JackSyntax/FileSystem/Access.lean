/-
**Access to files.**

Programs reach files through a small set of operations, each of which may fail with an error of the
system.

Main definitions:

* `SystemError` — why an operation fails, `SystemError.message` — its text, and
  `SystemError.ofCode` — the error with a given number;
* `MonadFiles` — the operations;
* `makeDirectories` — making a directory and those around it.
-/

import JackSyntax.FileSystem.Path

set_option relaxedAutoImplicit false
set_option autoImplicit false

namespace JackSyntax

/-! ### Errors -/

/-- Why an operation on files fails. -/
inductive SystemError where
  | notFound
  | alreadyExists
  | notADirectory
  | isADirectory
  /-- A path is too long, or a name in it is. -/
  | nameTooLong
  /-- A path holds the byte zero, which ends a path for the system.  Such a path is refused before
  the system is asked. -/
  | nulCharacter
  /-- Any other reason, by its number and its text. -/
  | other (code : Nat) (text : String)
  deriving DecidableEq

namespace SystemError

/-- The number of an error, if the system gave it. -/
def code? : SystemError → Option Nat
  | .notFound => some 2
  | .alreadyExists => some 17
  | .notADirectory => some 20
  | .isADirectory => some 21
  | .nameTooLong => some 36
  | .nulCharacter => none
  | .other code _ => some code

/-- The text of an error. -/
def text : SystemError → String
  | .notFound => "No such file or directory"
  | .alreadyExists => "File exists"
  | .notADirectory => "Not a directory"
  | .isADirectory => "Is a directory"
  | .nameTooLong => "File name too long"
  | .nulCharacter => "file name contained an unexpected NUL byte"
  | .other _ text => text

/-- The name of the kind of an error. -/
def kind : SystemError → String
  | .notFound => "NotFound"
  | .alreadyExists => "AlreadyExists"
  | .notADirectory => "NotADirectory"
  | .isADirectory => "IsADirectory"
  | .nameTooLong => "InvalidFilename"
  | .nulCharacter => "InvalidInput"
  | .other _ _ => "Other"

/-- An error as a diagnostic shows it. -/
def message (error : SystemError) : String :=
  match error.code? with
  | some code => error.text ++ " (os error " ++ toString code ++ ")"
  | none => error.text

/-- The errors of the system that have a name here. -/
def named : List SystemError :=
  [.notFound, .alreadyExists, .notADirectory, .isADirectory, .nameTooLong]

/-- The error of the system with a given number; the text serves if it has no name here. -/
def ofCode (code : Nat) (text : String) : SystemError :=
  (named.find? fun error => error.code? == some code).getD (.other code text)

end SystemError

/-! ### Operations -/

/-- The operations by which a program reaches files. -/
class MonadFiles (m : Type → Type) where
  /-- Whether a path leads to a directory. -/
  isDirectory : Path → m Bool
  /-- Whether a path leads to a file. -/
  isFile : Path → m Bool
  /-- The names directly inside a directory, in any order. -/
  list : Path → m (Except SystemError (List Bytes))
  /-- The contents of a file. -/
  read : Path → m (Except SystemError ByteArray)
  /-- Writes a file, in place of what it held. -/
  write : Path → ByteArray → m (Except SystemError Unit)
  /-- Makes a directory inside one that exists. -/
  makeDirectory : Path → m (Except SystemError Unit)

export MonadFiles (isDirectory isFile)

section

variable {m : Type → Type} [Monad m] [MonadFiles m]

/-- Makes a directory inside one that exists.  It is no error that the directory itself exists
already, and the empty path needs none. -/
def ensureDirectory (p : Path) : m (Except SystemError Unit) := do
  if p.bytes.isEmpty then return .ok ()
  match ← MonadFiles.makeDirectory p with
  | .ok () => return .ok ()
  | .error error => if ← isDirectory p then return .ok () else return .error error

/-- Makes a directory, after those of its ancestors, nearest first, that are missing. -/
def ensureDirectoryAfter (p : Path) : List Path → m (Except SystemError Unit)
  | [] => ensureDirectory p
  | parent :: further => do
      match ← ensureDirectory p with
      | .error .notFound =>
          match ← ensureDirectoryAfter parent further with
          | .ok () => ensureDirectory p
          | .error error => return .error error
      | result => return result

/-- Makes a directory and all missing directories around it. -/
def makeDirectories (p : Path) : m (Except SystemError Unit) :=
  ensureDirectoryAfter p p.ancestors

end

end JackSyntax
