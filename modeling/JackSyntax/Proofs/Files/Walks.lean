/-
**Where paths lead.**

A walk needs a directory under every step, also under an idle one.  So idle steps make no
difference to a walk that ends in a directory, and such a walk depends on nothing but the
directories on its way: it ends in the same place in every file system that still has them.

Main definitions:

* `Step.apply` — the place to which a step leads;
* `FileSystem.start` — where the course of a path begins;
* `FileSystem.directoryAt` — the directory to which the course of a path leads;
* `FileSystem.permit` — a place where a file may be written, and `FileSystem.target` — that of the
  file which a path names;
* `FileSystem.KeepsDirectories` — every directory is still there.

Main results:

* `FileSystem.enter_filter` — idle steps make no difference;
* `FileSystem.enter_mono` — **a walk ends in the same place as long as its directories are there**;
* `FileSystem.locate_of_file` — a path that leads to a file leads to its home first;
* `FileSystem.write_eq`, `FileSystem.target_join` — where a file is written.
-/

import JackSyntax.FileSystem.Operations
import JackSyntax.Proofs.Files.Paths

set_option relaxedAutoImplicit false
set_option autoImplicit false

namespace JackSyntax

theorem Path.isIdle_iff {step : Bytes} :
    Path.isIdle step = true ↔ step = [] ∨ step = [dot] := by
  rw [Path.isIdle, Bool.or_eq_true, beq_iff_eq, beq_iff_eq]

theorem FileName.bytes_injective : Function.Injective FileName.bytes := by
  rintro ⟨bytes, valid⟩ ⟨bytes', valid'⟩ same
  obtain rfl : bytes = bytes' := same
  rfl

/-- A name inside a directory is one step that leads to a name. -/
theorem FileName.isPlain (name : FileName) : IsPlain name.bytes := by
  have valid := name.valid
  simp only [isFileName, Bool.and_eq_true, bne_iff_ne, ne_eq, Bool.not_eq_true',
    List.contains_eq_mem, decide_eq_false_iff_not] at valid
  obtain ⟨⟨⟨⟨⟨some, noDot⟩, noDots⟩, -⟩, noSlash⟩, -⟩ := valid
  refine ⟨noSlash, Bool.eq_false_iff.2 fun idle => ?_, noDots⟩
  rcases Path.isIdle_iff.1 idle with empty | dot
  · exact some empty
  · exact noDot dot

/-- No name holds the byte zero. -/
theorem FileName.zero_not_mem (name : FileName) : 0 ∉ name.bytes := by
  have valid := name.valid
  simp only [isFileName, Bool.and_eq_true, Bool.not_eq_true', List.contains_eq_mem,
    decide_eq_false_iff_not] at valid
  exact valid.2

theorem FileName.length_le (name : FileName) : name.bytes.length ≤ maxNameSize := by
  have valid := name.valid
  simp only [isFileName, Bool.and_eq_true, decide_eq_true_eq] at valid
  exact valid.1.1.2

namespace Step

/-- The place to which a step leads from a directory. -/
def apply (here : Location) : Step → Location
  | .stay => here
  | .up => here.tail
  | .down name => name :: here

theorem ofBytes_of_isIdle {bytes : Bytes} (idle : Path.isIdle bytes = true) :
    ofBytes bytes = .ok .stay := by
  rw [ofBytes, if_pos (Path.isIdle_iff.1 idle)]

theorem ofBytes_of_busy {bytes : Bytes} (busy : Path.isIdle bytes = false)
    (name : bytes ≠ [dot, dot]) : ofBytes bytes = match FileName.ofBytes? bytes with
      | some name => .ok (.down name)
      | none => .error .nameTooLong := by
  have awake : ¬ (bytes = [] ∨ bytes = [dot]) := by
    rw [← Path.isIdle_iff, busy]
    exact Bool.false_ne_true
  refine (if_neg awake).trans ((if_neg name).trans ?_)
  cases FileName.ofBytes? bytes <;> rfl

end Step

theorem FileName.ofBytes?_eq_some {bytes : Bytes} {name : FileName}
    (h : ofBytes? bytes = some name) :
    name.bytes = bytes := by
  unfold ofBytes? at h
  split at h
  · rw [← Option.some.inj h]
  · cases h

/-- A step that leads to a name is this name. -/
theorem Step.bytes_of_ofBytes {bytes : Bytes} {name : FileName}
    (h : ofBytes bytes = .ok (.down name)) : name.bytes = bytes := by
  unfold ofBytes at h
  split at h
  · cases h
  · split at h
    · cases h
    · split at h
      · rename_i named
        cases h
        exact FileName.ofBytes?_eq_some named
      · cases h

namespace FileSystem

variable {fs fs' : FileSystem} {here l : Location}

/-! ### Steps and walks -/

theorem step_eq_ok_iff {bytes : Bytes} :
    fs.step here bytes = .ok l ↔
      fs.get? here = some .directory ∧ ∃ s, Step.ofBytes bytes = .ok s ∧ s.apply here = l := by
  unfold step
  cases fs.get? here with
  | none => simp
  | some entry =>
      cases entry with
      | file contents => simp
      | directory =>
          cases Step.ofBytes bytes with
          | error error => simp [bind, Except.bind]
          | ok s => cases s <;> simp [bind, Except.bind, Step.apply]

/-- Where no directory is, every step fails, and for the same reason. -/
theorem step_congr_of_error (bytes other : Bytes) (h : fs.get? here ≠ some .directory) :
    fs.step here bytes = fs.step here other := by
  unfold step
  cases found : fs.get? here with
  | none => rfl
  | some entry =>
      cases entry with
      | file contents => rfl
      | directory => exact absurd found h

theorem step_of_isIdle {bytes : Bytes} (idle : Path.isIdle bytes = true)
    (h : fs.get? here = some .directory) : fs.step here bytes = .ok here :=
  step_eq_ok_iff.2 ⟨h, _, Step.ofBytes_of_isIdle idle, rfl⟩

theorem walk_append (first second : List Bytes) :
    fs.walk here (first ++ second) = fs.walk here first >>= (fs.walk · second) :=
  List.foldlM_append

theorem enter_cons (bytes : Bytes) (steps : List Bytes) :
    fs.enter here (bytes :: steps) = fs.step here bytes >>= (fs.enter · steps) := by
  rw [enter, walk, List.foldlM_cons, bind_assoc]
  rfl

/-- A walk that ends in a directory. -/
theorem enter_eq_ok_iff {steps : List Bytes} :
    fs.enter here steps = .ok l ↔ fs.walk here steps = .ok l ∧ fs.get? l = some .directory := by
  unfold enter
  cases fs.walk here steps with
  | error error => simp [bind, Except.bind]
  | ok last =>
      have idle : Path.isIdle [dot] = true := rfl
      simp only [bind, Except.bind, step_eq_ok_iff, Step.ofBytes_of_isIdle idle, Except.ok.injEq,
        exists_eq_left', Step.apply]
      constructor
      · rintro ⟨found, rfl⟩
        exact ⟨rfl, found⟩
      · rintro ⟨rfl, found⟩
        exact ⟨found, rfl⟩

/-- Idle steps make no difference to a walk that ends in a directory. -/
theorem enter_filter (here : Location) (steps : List Bytes) :
    fs.enter here (steps.filter fun step => !Path.isIdle step) = fs.enter here steps := by
  induction steps generalizing here with
  | nil => rfl
  | cons bytes steps ih =>
      by_cases idle : Path.isIdle bytes = true
      · rw [List.filter_cons_of_neg (by simp [idle]), ih, enter_cons]
        by_cases found : fs.get? here = some .directory
        · rw [step_of_isIdle idle found]
          rfl
        · -- without a directory there is no step, whichever comes first
          rw [step_congr_of_error _ [dot] found]
          cases steps with
          | nil =>
              rw [enter]
              cases failed : fs.step here [dot] with
              | error error => exact failed
              | ok l => exact absurd (step_eq_ok_iff.1 failed).1 found
          | cons next steps =>
              rw [enter_cons, step_congr_of_error _ [dot] found]
              cases failed : fs.step here [dot] with
              | error error => rfl
              | ok l => exact absurd (step_eq_ok_iff.1 failed).1 found
      · rw [List.filter_cons_of_pos (by simp [idle]), enter_cons, enter_cons]
        exact congrArg _ (funext ih)

/-- A walk of which the last step leads to a place. -/
theorem walk_concat_eq_ok_iff {before : List Bytes} {last : Bytes} :
    fs.walk here (before ++ [last]) = .ok l ↔
      ∃ d s, fs.enter here before = .ok d ∧ Step.ofBytes last = .ok s ∧ s.apply d = l := by
  rw [walk_append]
  cases first : fs.walk here before with
  | error error => simp [bind, Except.bind, enter_eq_ok_iff, first]
  | ok d =>
      have single : fs.walk d [last] = fs.step d last := by
        rw [walk, List.foldlM_cons]
        cases fs.step d last <;> rfl
      simp only [bind, Except.bind, single, step_eq_ok_iff, enter_eq_ok_iff, first, Except.ok.injEq]
      constructor
      · rintro ⟨found, s, read, rfl⟩
        exact ⟨d, s, ⟨rfl, found⟩, read, rfl⟩
      · rintro ⟨_, s, ⟨rfl, found⟩, read, rfl⟩
        exact ⟨found, s, read, rfl⟩

/-! ### Directories that stay -/

/-- Every directory is still there. -/
structure KeepsDirectories (fs fs' : FileSystem) : Prop where
  workingDirectory : fs'.workingDirectory = fs.workingDirectory
  directories : ∀ l, fs.get? l = some .directory → fs'.get? l = some .directory

theorem KeepsDirectories.refl (fs : FileSystem) : fs.KeepsDirectories fs := ⟨rfl, fun _ => id⟩

theorem walk_mono (keeps : fs.KeepsDirectories fs') {steps : List Bytes}
    (h : fs.walk here steps = .ok l) : fs'.walk here steps = .ok l := by
  induction steps generalizing here with
  | nil => exact h
  | cons bytes steps ih =>
      rw [walk, List.foldlM_cons] at h ⊢
      cases first : fs.step here bytes with
      | error error =>
          rw [first] at h
          cases h
      | ok next =>
          obtain ⟨found, read⟩ := step_eq_ok_iff.1 first
          rw [first] at h
          rw [step_eq_ok_iff.2 ⟨keeps.directories _ found, read⟩]
          exact ih h

/-- **A walk to a directory ends in the same place as long as its directories are there.** -/
theorem enter_mono (keeps : fs.KeepsDirectories fs') {steps : List Bytes}
    (h : fs.enter here steps = .ok l) : fs'.enter here steps = .ok l := by
  obtain ⟨walked, found⟩ := enter_eq_ok_iff.1 h
  exact enter_eq_ok_iff.2 ⟨walk_mono keeps walked, keeps.directories _ found⟩

/-! ### Paths -/

/-- Where the course of a path begins. -/
def start (fs : FileSystem) (p : Path) : Location :=
  if p.isAbsolute then [] else fs.workingDirectory

/-- The directory to which the course of a path leads. -/
def directoryAt (fs : FileSystem) (p : Path) : Except SystemError Location :=
  fs.enter (fs.start p) p.course

theorem origin_eq_start {p : Path} {origin : Location} (h : fs.origin p = .ok origin) :
    origin = fs.start p := by
  unfold FileSystem.origin at h
  split at h
  · cases h
  · split at h
    · cases h
    · split at h
      · cases h
      · rw [start]
        split at h <;> rename_i root <;> simp [root, Except.ok.inj h]

/-- A path is refused if it is empty or too long or holds the byte zero. -/
theorem origin_eq_ok_iff {p : Path} :
    fs.origin p = .ok (fs.start p) ↔ 0 ∉ p.bytes ∧ p.bytes ≠ [] ∧ p.bytes.length ≤ maxPathSize := by
  unfold FileSystem.origin start
  split_ifs <;> simp_all

/-- A name inside a directory is refused only if its path is too long. -/
theorem origin_join_iff {directory : Path} (name : FileName)
    (h : fs.origin directory = .ok (fs.start directory)) :
    fs.origin (directory.join name.bytes) = .ok (fs.start (directory.join name.bytes)) ↔
      (directory.join name.bytes).bytes.length ≤ maxPathSize := by
  obtain ⟨clean, some, -⟩ := origin_eq_ok_iff.1 h
  obtain ⟨between, whole, front⟩ := Path.join_eq directory name.isPlain
  have noZero : 0 ∉ (directory.join name.bytes).bytes := by
    rw [whole, List.mem_append, List.mem_append, not_or, not_or]
    refine ⟨⟨clean, ?_⟩, name.zero_not_mem⟩
    obtain ⟨rfl, -⟩ | ⟨rfl, -⟩ := front <;> decide
  have some' : (directory.join name.bytes).bytes ≠ [] := by
    intro empty
    rw [empty, eq_comm, List.append_eq_nil_iff, List.append_eq_nil_iff] at whole
    exact some whole.1.1
  rw [origin_eq_ok_iff]
  exact ⟨fun all => all.2.2, fun short => ⟨noZero, some', short⟩⟩

theorem origin_congr (same : fs'.workingDirectory = fs.workingDirectory) (p : Path) :
    fs'.origin p = fs.origin p := by
  rw [origin, origin, same]

theorem start_congr (same : fs'.workingDirectory = fs.workingDirectory) (p : Path) :
    fs'.start p = fs.start p := by
  rw [start, start, same]

theorem directoryAt_mono (keeps : fs.KeepsDirectories fs') {p : Path}
    (h : fs.directoryAt p = .ok l) : fs'.directoryAt p = .ok l := by
  rw [directoryAt, start_congr keeps.workingDirectory]
  exact enter_mono keeps h

theorem locate_eq_ok_iff {p : Path} :
    fs.locate p = .ok l ↔
      fs.origin p = .ok (fs.start p) ∧ fs.walk (fs.start p) p.steps = .ok l := by
  unfold locate
  cases origin : fs.origin p with
  | error error => simp [bind, Except.bind]
  | ok o =>
      obtain rfl := origin_eq_start origin
      simp [bind, Except.bind]

theorem locate_mono (keeps : fs.KeepsDirectories fs') {p : Path} (h : fs.locate p = .ok l) :
    fs'.locate p = .ok l := by
  obtain ⟨origin, walked⟩ := locate_eq_ok_iff.1 h
  rw [locate_eq_ok_iff, origin_congr keeps.workingDirectory, start_congr keeps.workingDirectory]
  exact ⟨origin, walk_mono keeps walked⟩

/-- What a path leads to is at the place to which it leads. -/
theorem find?_eq_some_iff {p : Path} {entry : Entry} :
    fs.find? p = some entry ↔ ∃ l, fs.locate p = .ok l ∧ fs.get? l = some entry := by
  unfold find?
  cases fs.locate p <;> simp

/-- A file is read alike where its path leads to the same and the system refuses the same. -/
theorem read_congr {p : Path} (located : fs.locate p = .ok l) (located' : fs'.locate p = .ok l)
    (same : fs'.get? l = fs.get? l) (refused : fs'.refusals = fs.refusals) :
    fs'.read p = fs.read p := by
  rw [read, read, located, located', refused]
  simp only [bind, Except.bind, same]

/-- A path leads to a directory along its course, if it is not refused. -/
theorem directoryAt_of_locate {p : Path} (located : fs.locate p = .ok l)
    (found : fs.get? l = some .directory) : fs.directoryAt p = .ok l := by
  obtain ⟨-, walked⟩ := locate_eq_ok_iff.1 located
  rw [directoryAt, Path.course, enter_filter]
  exact enter_eq_ok_iff.2 ⟨walked, found⟩

theorem directoryAt_of_find? {p : Path} (h : fs.find? p = some .directory) :
    ∃ d, fs.locate p = .ok d ∧ fs.directoryAt p = .ok d := by
  obtain ⟨d, located, found⟩ := find?_eq_some_iff.1 h
  exact ⟨d, located, directoryAt_of_locate located found⟩

/-- A path that leads to a file leads to its home first. -/
theorem locate_of_file {p : Path} {name : Bytes} {contents : ByteArray}
    (named : p.fileName? = some name) (h : fs.find? p = some (.file contents)) :
    ∃ (n : FileName) (d : Location), n.bytes = name ∧ fs.directoryAt p.home = .ok d ∧
      fs.locate p = .ok (n :: d) ∧ fs.get? (n :: d) = some (.file contents) := by
  obtain ⟨l, located, found⟩ := find?_eq_some_iff.1 h
  obtain ⟨-, walked⟩ := locate_eq_ok_iff.1 located
  obtain ⟨noDots, ending⟩ := Path.fileName?_eq_some_iff.1 named
  obtain ⟨course, root⟩ := Path.course_home named
  obtain ⟨before, last, steps⟩ := p.exists_steps_eq_concat
  rw [steps, walk_concat_eq_ok_iff] at walked
  obtain ⟨d, s, entered, read, rfl⟩ := walked
  rw [Path.course, steps, List.filter_append] at course ending
  by_cases idle : Path.isIdle last = true
  · -- an idle step at the end leads to a directory, and not to a file
    rw [Step.ofBytes_of_isIdle idle] at read
    obtain rfl := Except.ok.inj read
    rw [Step.apply, (enter_eq_ok_iff.1 entered).2] at found
    cases found
  · rw [Bool.not_eq_true] at idle
    have alone : [last].filter (fun step => !Path.isIdle step) = [last] := by simp [idle]
    rw [alone] at course ending
    obtain rfl : last = name := by simpa using ending
    rw [Step.ofBytes_of_busy idle noDots] at read
    cases named : FileName.ofBytes? last with
    | none =>
        rw [named] at read
        cases read
    | some n =>
        rw [named] at read
        obtain rfl := Except.ok.inj read
        refine ⟨n, d, FileName.ofBytes?_eq_some named, ?_, located, found⟩
        rw [directoryAt, start, root, ← start, ← List.append_cancel_right course, enter_filter]
        exact entered

/-- A name that is joined to the path of a directory leads to a place inside the directory. -/
theorem locate_join {directory : Path} {name : FileName} {d : Location}
    (origin : fs.origin (directory.join name.bytes) = .ok (fs.start (directory.join name.bytes)))
    (h : fs.directoryAt directory = .ok d) :
    fs.locate (directory.join name.bytes) = .ok (name :: d) := by
  obtain ⟨before, steps, kept⟩ := Path.steps_join directory name.isPlain
  refine locate_eq_ok_iff.2 ⟨origin, ?_⟩
  rw [steps, walk_concat_eq_ok_iff]
  refine ⟨d, .down name, ?_, ?_, rfl⟩
  · rw [← enter_filter, kept, start, Path.isAbsolute_join _ name.isPlain]
    exact h
  · rw [Step.ofBytes_of_busy name.isPlain.busy name.isPlain.name, FileName.ofBytes?_bytes]

/-- Where a name leads that is joined to the path of a directory. -/
theorem locate_join_eq_ok {directory : Path} {name : Bytes} {d : Location} (plain : IsPlain name)
    (entered : fs.directoryAt directory = .ok d) (h : fs.locate (directory.join name) = .ok l) :
    ∃ n : FileName, n.bytes = name ∧ l = n :: d := by
  obtain ⟨before, steps, kept⟩ := Path.steps_join directory plain
  obtain ⟨-, walked⟩ := locate_eq_ok_iff.1 h
  rw [steps, walk_concat_eq_ok_iff] at walked
  obtain ⟨here, s, arrived, read, rfl⟩ := walked
  rw [← enter_filter, kept, start, Path.isAbsolute_join _ plain, ← start] at arrived
  obtain rfl := Except.ok.inj (entered.symm.trans arrived)
  rw [Step.ofBytes_of_busy plain.busy plain.name] at read
  split at read
  · rename_i n named
    obtain rfl := Except.ok.inj read
    exact ⟨n, FileName.ofBytes?_eq_some named, rfl⟩
  · cases read

/-! ### Writing -/

/-- A place, if a file may be written there. -/
def permit (fs : FileSystem) (l : Location) : Except SystemError Location :=
  if fs.get? l = some .directory then .error .isADirectory
  else
    match fs.refusals.write l with
    | some error => .error error
    | none => .ok l

theorem permit_eq_ok_iff {l' : Location} :
    fs.permit l = .ok l' ↔
      l' = l ∧ fs.get? l ≠ some .directory ∧ fs.refusals.write l = none := by
  unfold permit
  by_cases directory : fs.get? l = some .directory
  · simp [directory]
  · cases fs.refusals.write l <;> simp [directory, eq_comm]

/-- Whether a file may be written at a place depends on whether a directory is there and on what the
system refuses. -/
theorem permit_congr (same : fs'.get? l = some .directory ↔ fs.get? l = some .directory)
    (refused : fs'.refusals = fs.refusals) : fs'.permit l = fs.permit l := by
  simp only [permit, same, refused]

/-- The place of the file that a path names, if it may be written there. -/
def target (fs : FileSystem) (p : Path) : Except SystemError Location := do
  let origin ← fs.origin p
  match p.steps.reverse with
  | [] => .error .notFound
  | last :: before =>
      let here ← fs.enter origin before.reverse
      match ← Step.ofBytes last with
      | .down name => fs.permit (name :: here)
      | _ => .error .isADirectory

/-- To write a file is to put it at its place. -/
theorem write_eq (fs : FileSystem) (p : Path) (contents : ByteArray) :
    fs.write p contents = (fs.target p).map fun l => fs.put l (.file contents) := by
  unfold write target
  cases fs.origin p with
  | error error => rfl
  | ok origin =>
      cases p.steps.reverse with
      | nil => rfl
      | cons last before =>
          simp only [bind, Except.bind]
          cases fs.enter origin before.reverse with
          | error error => rfl
          | ok here =>
              cases Step.ofBytes last with
              | error error => rfl
              | ok s =>
                  cases s with
                  | stay | up => rfl
                  | down name =>
                      dsimp only [permit, putIfAllowed]
                      split
                      · rfl
                      · cases fs.refusals.write (name :: here) <;> rfl

/-- Where a name that is joined to the path of a directory is written. -/
theorem target_join (fs : FileSystem) (directory : Path) {name : Bytes} (plain : IsPlain name) :
    fs.target (directory.join name) = (do
      discard (fs.origin (directory.join name))
      let here ← fs.directoryAt directory
      match FileName.ofBytes? name with
      | none => .error .nameTooLong
      | some n => fs.permit (n :: here)) := by
  obtain ⟨before, steps, kept⟩ := Path.steps_join directory plain
  unfold target
  cases origin : fs.origin (directory.join name) with
  | error error => rfl
  | ok o =>
      obtain rfl := origin_eq_start origin
      have same : fs.enter (fs.start (directory.join name)) before = fs.directoryAt directory := by
        rw [← enter_filter, kept, start, Path.isAbsolute_join _ plain]
        rfl
      simp only [steps, List.reverse_append, List.reverse_singleton, List.singleton_append,
        List.reverse_reverse, bind, Except.bind, same, Step.ofBytes_of_busy plain.busy plain.name]
      cases fs.directoryAt directory with
      | error error => rfl
      | ok here => cases FileName.ofBytes? name <;> rfl

end FileSystem

end JackSyntax
