/-
**Files on a machine.**

A program that prints nothing does on a machine what it does with its files alone, and leaves the
standard output as it is.

Main results:

* `Machine.embedsWrites_onFiles` — programs that print nothing are followed with the files alone;
* `Machine.write_apply` — a single write.
-/

import JackSyntax.CommandLine.Output
import JackSyntax.Proofs.Analysis.Embedding
import JackSyntax.Proofs.Files.Changes

set_option relaxedAutoImplicit false
set_option autoImplicit false

namespace JackSyntax.Machine

open FileSystem

theorem embedsWrites_onFiles :
    EmbedsWrites (m := StateM FileSystem) (n := StateM Machine) fun _ => onFiles where
  pure _ := rfl
  bind _ _ := rfl
  isDirectory _ := rfl
  isFile _ := rfl
  list _ := rfl
  read _ := rfl
  makeDirectory _ := rfl
  write _ _ := rfl

/-- A program that prints nothing leaves the standard output as it is. -/
theorem onFiles_apply {α : Type} (x : StateM FileSystem α) (s : Machine) :
    onFiles x s = ((x s.files).1, { s with files := (x s.files).2 }) := rfl

theorem write_apply (p : Path) (contents : ByteArray) (s : Machine) :
    (MonadFiles.write p contents : StateM Machine (Except SystemError Unit)) s =
      match s.files.target p with
      | .ok l => (.ok (), { s with files := s.files.put l (.file contents) })
      | .error error => (.error error, s) := by
  rw [← embedsWrites_onFiles.write, onFiles_apply, FileSystem.write_apply]
  cases s.files.target p <;> rfl

end JackSyntax.Machine
