/-
**A record of the files that are written.**

A program that reaches files and the standard output through the operations alone can also run where
every file that is written is recorded, with its path and contents, in the order of the writes.  It
comes to the same result and leaves the same machine, since the record is never read.  So the record
says what a program writes, whatever the program itself says about it.

Main definitions:

* `Recorded` — a machine with a record of what has been written, and the operations on it;
* `record` — what a program writes;
* `Tracks` — a program that does with a record what another does without one;
* `silently` — a program that writes nothing.

Main results:

* `Tracks.bind`, `record_bind` — one program after another;
* `embeds_silently` — programs that write nothing are followed without a record;
* `tracks_write`, `record_write` — a single write.
-/

import JackSyntax.Proofs.Files.Machines

set_option relaxedAutoImplicit false
set_option autoImplicit false

namespace JackSyntax.FileSystem

/-- A machine, and the files that have been written on it: their paths and their contents, in the
order of the writes. -/
structure Recorded where
  machine : Machine
  written : List (Path × ByteArray)

variable {α β : Type} {s : Machine}

/-- A program that writes nothing. -/
def silently (y : StateM Machine α) : StateM Recorded α :=
  fun r => ((y r.machine).1, ⟨(y r.machine).2, r.written⟩)

instance : MonadFiles (StateM Recorded) where
  isDirectory p := silently (isDirectory p)
  isFile p := silently (isFile p)
  list p := silently (MonadFiles.list p)
  read p := silently (MonadFiles.read p)
  write p contents := fun r =>
    match r.machine.files.write p contents with
    | .ok fs => (.ok (), ⟨{ r.machine with files := fs }, r.written ++ [(p, contents)]⟩)
    | .error error => (.error error, r)
  makeDirectory p := silently (MonadFiles.makeDirectory p)

instance : MonadOutput (StateM Recorded) where
  print text := silently (MonadOutput.print text)

/-- What a program writes. -/
def record (x : StateM Recorded α) (s : Machine) : List (Path × ByteArray) := (x ⟨s, []⟩).2.written

/-- A program that does with a record what another does without one. -/
def Tracks (x : StateM Recorded α) (y : StateM Machine α) : Prop :=
  ∀ r, x r = ((y r.machine).1, ⟨(y r.machine).2, r.written ++ record x r.machine⟩)

/-! ### Programs that write nothing -/

theorem embeds_silently :
    Embeds (m := StateM Machine) (n := StateM Recorded) fun _ => silently where
  pure _ := rfl
  bind _ _ := rfl
  isDirectory _ := rfl
  isFile _ := rfl
  list _ := rfl
  read _ := rfl
  makeDirectory _ := rfl

@[simp] theorem record_silently (y : StateM Machine α) (s : Machine) : record (silently y) s = [] :=
  rfl

theorem tracks_silently (y : StateM Machine α) : Tracks (silently y) y := fun r => by
  rw [record_silently, List.append_nil]
  rfl

/-! ### One program after another -/

theorem tracks_pure (a : α) : Tracks (pure a) (pure a) := tracks_silently (pure a)

/-- The first part of a record is that of the first program. -/
theorem record_bind {x : StateM Recorded α} {y : StateM Machine α} {f : α → StateM Recorded β}
    {g : α → StateM Machine β} (first : Tracks x y) (second : ∀ a, Tracks (f a) (g a))
    (s : Machine) :
    record (x >>= f) s = record x s ++ record (f (y s).1) (y s).2 := by
  rw [record, bind_apply, first, second]
  rfl

theorem Tracks.bind {x : StateM Recorded α} {y : StateM Machine α} {f : α → StateM Recorded β}
    {g : α → StateM Machine β} (first : Tracks x y) (second : ∀ a, Tracks (f a) (g a)) :
    Tracks (x >>= f) (y >>= g) := by
  intro r
  rw [bind_apply, first, second, record_bind first second, List.append_assoc]
  rfl

/-- What is made of a result makes no difference to the record. -/
@[simp] theorem record_map (f : α → β) (x : StateM Recorded α) (s : Machine) :
    record (f <$> x) s = record x s := rfl

/-- A program that tracks another leaves what the other leaves. -/
theorem Tracks.apply {x : StateM Recorded α} {y : StateM Machine α} (h : Tracks x y)
    (s : Machine) : x ⟨s, []⟩ = ((y s).1, ⟨(y s).2, record x s⟩) := h ⟨s, []⟩

/-! ### Single operations -/

/-- To write a file is to put it at its place, and to record it. -/
theorem recorded_write_apply (p : Path) (contents : ByteArray) (r : Recorded) :
    (MonadFiles.write p contents : StateM Recorded (Except SystemError Unit)) r =
      match r.machine.files.target p with
      | .ok l => (.ok (), ⟨{ r.machine with files := r.machine.files.put l (.file contents) },
          r.written ++ [(p, contents)]⟩)
      | .error error => (.error error, r) := by
  change (match r.machine.files.write p contents with
    | .ok fs => ((.ok (), ⟨{ r.machine with files := fs }, r.written ++ [(p, contents)]⟩) :
        Except SystemError Unit × Recorded)
    | .error error => (.error error, r)) = _
  rw [write_eq]
  cases r.machine.files.target p <;> rfl

/-- A file is recorded if it can be written. -/
theorem record_write (p : Path) (contents : ByteArray) (s : Machine) :
    record (MonadFiles.write p contents) s =
      match s.files.target p with
      | .ok _ => [(p, contents)]
      | .error _ => [] := by
  rw [record, recorded_write_apply]
  dsimp only
  cases s.files.target p <;> rfl

theorem tracks_write (p : Path) (contents : ByteArray) :
    Tracks (MonadFiles.write p contents) (MonadFiles.write p contents) := by
  intro r
  rw [record_write, recorded_write_apply, Machine.write_apply]
  cases r.machine.files.target p with
  | ok l => rfl
  | error error =>
      dsimp only
      rw [List.append_nil]

end JackSyntax.FileSystem
