/-
**Printing.**

A program prints texts one after the other.  A print may fail, and a part of its text may be out by
then.

Main definitions:

* `MonadOutput` — the operation by which a program prints;
* `PrintFault` — a print that fails, and `StandardOutput` — what has been printed and what becomes
  of the next prints;
* `Machine` — files and a standard output, and the instances of `MonadFiles` and `MonadOutput` on
  it.
-/

import JackSyntax.FileSystem.Operations

set_option relaxedAutoImplicit false
set_option autoImplicit false

namespace JackSyntax

/-- The operation by which a program prints. -/
class MonadOutput (m : Type → Type) where
  /-- Prints a text on the standard output.  If this fails, a part of the text may be out. -/
  print : String → m (Except SystemError Unit)

/-- A print that fails. -/
structure PrintFault where
  /-- How many bytes of the text are out. -/
  size : Nat
  error : SystemError
  deriving DecidableEq

/-- A standard output. -/
structure StandardOutput where
  /-- What has been printed. -/
  printed : Bytes
  /-- What becomes of the next prints, each of which may fail.  All prints behind them succeed. -/
  faults : List (Option PrintFault)
  deriving DecidableEq

/-- A standard output on which nothing has been printed, and on which every print succeeds. -/
def StandardOutput.fresh : StandardOutput := ⟨[], []⟩

/-- Prints a text. -/
def StandardOutput.print (out : StandardOutput) (text : String) :
    Except SystemError Unit × StandardOutput :=
  match out.faults with
  | some fault :: faults =>
      (.error fault.error, ⟨out.printed ++ (bytesOf text).take fault.size, faults⟩)
  | none :: faults => (.ok (), ⟨out.printed ++ bytesOf text, faults⟩)
  | [] => (.ok (), ⟨out.printed ++ bytesOf text, []⟩)

/-- The files and the standard output of a machine. -/
structure Machine where
  files : FileSystem
  output : StandardOutput

namespace Machine

/-- Runs a program that prints nothing. -/
def onFiles {α : Type} (x : StateM FileSystem α) : StateM Machine α :=
  fun s => ((x s.files).1, { s with files := (x s.files).2 })

instance : MonadFiles (StateM Machine) where
  isDirectory p := onFiles (isDirectory p)
  isFile p := onFiles (isFile p)
  list p := onFiles (MonadFiles.list p)
  read p := onFiles (MonadFiles.read p)
  write p contents := onFiles (MonadFiles.write p contents)
  makeDirectory p := onFiles (MonadFiles.makeDirectory p)

instance : MonadOutput (StateM Machine) where
  print text := fun s => ((s.output.print text).1, { s with output := (s.output.print text).2 })

end Machine

end JackSyntax
