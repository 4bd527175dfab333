/-
**The program.**

Runs its command line on the files and the standard output of the machine, prints the diagnostics
and ends with the exit code.
-/

import JackSyntax.CommandLine.Run

set_option relaxedAutoImplicit false
set_option autoImplicit false

namespace JackSyntax

/-- The number of an error.  The machine gives it with either sign. -/
def errorNumber (code : UInt32) : Nat := min code.toNat (-code).toNat

/-- The error of a failed operation of the machine. -/
def SystemError.ofMachine : IO.Error → SystemError
  | .noFileOrDirectory _ code details => .ofCode (errorNumber code) details
  | .alreadyExists _ code details => .ofCode (errorNumber code) details
  | .inappropriateType _ code details => .ofCode (errorNumber code) details
  | .invalidArgument _ code details => .ofCode (errorNumber code) details
  | .permissionDenied _ code details => .ofCode (errorNumber code) details
  | error => .other 0 (toString error)

/-- Runs an operation of the machine and returns its error as a value. -/
def attempt {α : Type} (operation : IO α) : IO (Except SystemError α) := do
  match ← operation.toBaseIO with
  | .ok value => return .ok value
  | .error error => return .error (.ofMachine error)

/-- A path as the operations of the machine take it. -/
def onMachine (p : Path) := (IO.FS.DirEntry.mk p.text "").root

/-- Runs an operation of the machine on a path.  The operations take texts, so a path that is none
leads nowhere. -/
def attemptAt {α : Type} (p : Path) (operation : IO α) : IO (Except SystemError α) :=
  if bytesOf p.text = p.bytes then attempt operation else return .error .notFound

/-- The kind of what a path leads to, if it leads anywhere. -/
def kind? (p : Path) : IO (Option IO.FS.FileType) := do
  match ← attemptAt p do return (← (onMachine p).metadata).type with
  | .ok kind => return some kind
  | .error _ => return none

instance : MonadFiles IO where
  isDirectory p := return (← kind? p) == some .dir
  isFile p := return (← kind? p) == some .file
  list p := attemptAt p do
    return (← (onMachine p).readDir).toList.map fun entry => bytesOf entry.fileName
  read p := attemptAt p (IO.FS.readBinFile p.text)
  write p contents := attemptAt p (IO.FS.writeBinFile p.text contents)
  makeDirectory p := attemptAt p (IO.FS.createDir p.text)

instance : MonadOutput IO where
  print text := attempt do
    let output ← IO.getStdout
    output.putStr text
    output.flush

end JackSyntax

/-- Does what the arguments ask for. -/
def main (arguments : List String) : IO UInt32 := do
  let report ← (JackSyntax.CommandLine.execute (arguments.map JackSyntax.bytesOf) : IO _)
  IO.eprint report.errorOutput
  return report.exitCode
