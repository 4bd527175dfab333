/-
**What changes in a file system.**

A change is described place by place: what was there and what is there now.  Files are only written
where no directory is, and directories are only made where nothing is.  So whatever a run of such
changes does, the directories that were there stay, and with them every walk that ended in one.

Main definitions:

* `FileSystem.ChangesBy` — every change is of a given kind;
* `IsWritten`, `IsMade` — the kinds: a file that is written, and a directory that is made;
* `FileSystem.putFiles` — a file system in which files have been written, one after the other;
* `FileSystem.IsNew` — what is at a place now, and was not there before.

Main results:

* `FileSystem.ChangesBy.trans` — kinds of changes that may follow each other;
* `FileSystem.ChangesBy.keepsDirectories` — no directory is lost;
* `FileSystem.get?_putFiles_flatMap`, `FileSystem.exists_of_get?_putFiles_ne` — what is there after
  files have been written;
* `FileSystem.changesBy_putFiles` — what writing files changes;
* `FileSystem.isNew_putFiles_flatMap` — **what is new is new for one of the reasons to write**.
-/

import Mathlib.Data.List.Induction
import JackSyntax.Proofs.Files.Walks

set_option relaxedAutoImplicit false
set_option autoImplicit false

namespace JackSyntax

/-- A kind of changes: the place, what was there, and what is there now. -/
abbrev ChangeKind := Location → Option Entry → Entry → Prop

/-- A file is written at one of some places, where no directory was. -/
def IsWritten (places : Location → Prop) : ChangeKind := fun l before after =>
  places l ∧ before ≠ some .directory ∧ ∃ contents, after = .file contents

/-- A directory is made at one of some places, where nothing was. -/
def IsMade (places : Location → Prop) : ChangeKind := fun l before after =>
  places l ∧ before = none ∧ after = .directory

namespace FileSystem

variable {fs fs' fs'' : FileSystem} {kind : ChangeKind} {places : Location → Prop} {l : Location}

/-- Every change is of a given kind, nothing is removed, and the system refuses what it refused. -/
structure ChangesBy (kind : ChangeKind) (fs fs' : FileSystem) : Prop where
  workingDirectory : fs'.workingDirectory = fs.workingDirectory
  refusals : fs'.refusals = fs.refusals
  change : ∀ l, fs'.get? l ≠ fs.get? l → ∃ e, fs'.get? l = some e ∧ kind l (fs.get? l) e

namespace ChangesBy

theorem refl (kind : ChangeKind) (fs : FileSystem) : fs.ChangesBy kind fs :=
  ⟨rfl, rfl, fun _ changed => absurd rfl changed⟩

theorem imp {kind' : ChangeKind} (h : fs.ChangesBy kind fs')
    (weaker : ∀ l before after, kind l before after → kind' l before after) :
    fs.ChangesBy kind' fs' := by
  refine ⟨h.workingDirectory, h.refusals, fun l changed => ?_⟩
  obtain ⟨e, found, allowed⟩ := h.change l changed
  exact ⟨e, found, weaker l _ e allowed⟩

/-- Changes of a kind that may follow each other are changes of that kind. -/
theorem trans (follows : ∀ l before e after, kind l before e → kind l (some e) after →
    kind l before after) (first : fs.ChangesBy kind fs') (second : fs'.ChangesBy kind fs'') :
    fs.ChangesBy kind fs'' := by
  refine ⟨second.workingDirectory.trans first.workingDirectory,
    second.refusals.trans first.refusals, fun l changed => ?_⟩
  by_cases later : fs''.get? l = fs'.get? l
  · rw [later] at changed ⊢
    exact first.change l changed
  · obtain ⟨e, found, allowed⟩ := second.change l later
    by_cases earlier : fs'.get? l = fs.get? l
    · exact ⟨e, found, earlier ▸ allowed⟩
    · obtain ⟨e', found', allowed'⟩ := first.change l earlier
      exact ⟨e, found, follows l _ e' e allowed' (found' ▸ allowed)⟩

/-- What is not changed is the same. -/
theorem get?_eq (h : fs.ChangesBy kind fs') (never : ∀ e, ¬ kind l (fs.get? l) e) :
    fs'.get? l = fs.get? l := by
  by_contra changed
  obtain ⟨e, -, allowed⟩ := h.change l changed
  exact never e allowed

/-- No directory is lost, if directories are never changed. -/
theorem keepsDirectories (h : fs.ChangesBy kind fs')
    (never : ∀ l e, ¬ kind l (some .directory) e) : fs.KeepsDirectories fs' := by
  refine ⟨h.workingDirectory, fun l found => ?_⟩
  rw [h.get?_eq, found]
  rw [found]
  exact never l

end ChangesBy

theorem not_isWritten_directory (l : Location) (e : Entry) :
    ¬ IsWritten places l (some .directory) e := fun h => h.2.1 rfl

theorem not_isMade_some (l : Location) (before e : Entry) : ¬ IsMade places l (some before) e := by
  rintro ⟨-, impossible, -⟩
  cases impossible

theorem isWritten_trans (l : Location) (before : Option Entry) (e after : Entry)
    (first : IsWritten places l before e) (second : IsWritten places l (some e) after) :
    IsWritten places l before after :=
  ⟨first.1, first.2.1, second.2.2⟩

theorem isMade_trans (l : Location) (before : Option Entry) (e after : Entry)
    (_ : IsMade places l before e) (second : IsMade places l (some e) after) :
    IsMade places l before after :=
  absurd second (not_isMade_some l e after)

/-- Where files are written, directories are what they were. -/
theorem ChangesBy.get?_eq_directory_iff (h : fs.ChangesBy (IsWritten places) fs') (l : Location) :
    fs'.get? l = some .directory ↔ fs.get? l = some .directory := by
  constructor
  · intro found
    by_contra other
    obtain ⟨e, found', -, -, contents, rfl⟩ := h.change l fun same => other (same ▸ found)
    rw [found] at found'
    cases found'
  · exact (h.keepsDirectories not_isWritten_directory).directories l

/-- A new entry is a change at its place. -/
theorem changesBy_put (e : Entry) (allowed : kind l (fs.get? l) e) :
    fs.ChangesBy kind (fs.put l e) := by
  refine ⟨rfl, rfl, fun l' changed => ?_⟩
  rw [get?_put] at changed ⊢
  by_cases root : l' = []
  · rw [if_pos root, root] at changed
    exact absurd rfl changed
  · rw [if_neg root] at changed ⊢
    by_cases same : l' = l
    · subst same
      exact ⟨e, if_pos rfl, allowed⟩
    · rw [if_neg same] at changed
      exact absurd rfl changed

/-- A new entry changes nothing if it was there before. -/
theorem forall_get?_put_iff {e : Entry} (some : l ≠ []) :
    (∀ l', (fs.put l e).get? l' = fs.get? l') ↔ fs.get? l = .some e := by
  simp only [get?_put]
  constructor
  · intro same
    have here := same l
    rw [if_neg some, if_pos rfl] at here
    exact here.symm
  · intro there l'
    by_cases root : l' = []
    · rw [if_pos root, root]
      rfl
    · rw [if_neg root]
      by_cases place : l' = l
      · rw [if_pos place, place, there]
      · rw [if_neg place]

/-! ### Several files -/

/-- The file system in which files have been written, one after the other. -/
def putFiles (fs : FileSystem) (files : List (Location × ByteArray)) : FileSystem :=
  files.foldl (fun fs file => fs.put file.1 (.file file.2)) fs

@[simp] theorem putFiles_nil (fs : FileSystem) : fs.putFiles [] = fs := rfl

theorem putFiles_cons (fs : FileSystem) (file : Location × ByteArray)
    (files : List (Location × ByteArray)) :
    fs.putFiles (file :: files) = (fs.put file.1 (.file file.2)).putFiles files := rfl

theorem putFiles_append (fs : FileSystem) (first second : List (Location × ByteArray)) :
    fs.putFiles (first ++ second) = (fs.putFiles first).putFiles second :=
  List.foldl_append

/-- If a place is always written with the same contents, it holds them in the end. -/
theorem get?_putFiles_of_mem {files : List (Location × ByteArray)} {contents : ByteArray}
    (inner : l ≠ []) (inside : (l, contents) ∈ files)
    (same : ∀ contents', (l, contents') ∈ files → contents' = contents) :
    (fs.putFiles files).get? l = some (.file contents) := by
  induction files using List.reverseRecOn with
  | nil => cases inside
  | append_singleton files file ih =>
      rw [putFiles_append, putFiles_cons, putFiles_nil, get?_put, if_neg inner]
      by_cases here : l = file.1
      · rw [if_pos here, same file.2 (by rw [here]; simp)]
      · rw [if_neg here]
        refine ih ?_ fun contents' earlier => same contents' (List.mem_append_left _ earlier)
        rcases List.mem_append.1 inside with earlier | last
        · exact earlier
        · exact absurd (congrArg Prod.fst (List.mem_singleton.1 last)) here

/-- The last writers of a place decide what it holds, if they agree. -/
theorem get?_putFiles_flatMap {α : Type} {writes : α → List (Location × ByteArray)}
    {before as : List α} {a : α} {contents : ByteArray} (inner : l ≠ [])
    (written : (l, contents) ∈ writes a)
    (agree : ∀ b ∈ a :: as, ∀ contents', (l, contents') ∈ writes b → contents' = contents) :
    (fs.putFiles ((before ++ a :: as).flatMap writes)).get? l = some (.file contents) := by
  rw [List.flatMap_append, putFiles_append]
  refine get?_putFiles_of_mem inner (List.mem_flatMap.2 ⟨a, List.mem_cons_self, written⟩) ?_
  intro contents' also
  obtain ⟨b, inside, written'⟩ := List.mem_flatMap.1 also
  exact agree b inside contents' written'

/-- A place that is changed is one of the places that are written, and holds a file. -/
theorem exists_of_get?_putFiles_ne {files : List (Location × ByteArray)}
    (changed : (fs.putFiles files).get? l ≠ fs.get? l) :
    ∃ contents, (l, contents) ∈ files ∧ (fs.putFiles files).get? l = some (.file contents) := by
  induction files using List.reverseRecOn with
  | nil => exact absurd rfl changed
  | append_singleton files file ih =>
      rw [putFiles_append, putFiles_cons, putFiles_nil, get?_put] at changed ⊢
      by_cases root : l = []
      · rw [if_pos root, root] at changed
        exact absurd rfl changed
      · rw [if_neg root] at changed ⊢
        by_cases here : l = file.1
        · rw [if_pos here, here]
          exact ⟨file.2, by simp, rfl⟩
        · rw [if_neg here] at changed ⊢
          obtain ⟨contents, inside, found⟩ := ih changed
          exact ⟨contents, List.mem_append_left _ inside, found⟩

/-- Writing files changes nothing but these files, if no directory is in their places. -/
theorem changesBy_putFiles {files : List (Location × ByteArray)}
    (free : ∀ file ∈ files, fs.get? file.1 ≠ some .directory) :
    fs.ChangesBy (IsWritten fun l => ∃ contents, (l, contents) ∈ files) (fs.putFiles files) := by
  induction files using List.reverseRecOn with
  | nil => exact .refl _ _
  | append_singleton files file ih =>
      have earlier : fs.ChangesBy (IsWritten fun l => ∃ contents, (l, contents) ∈ files ++ [file])
          (fs.putFiles files) := by
        refine (ih fun other inside => free other (List.mem_append_left _ inside)).imp ?_
        rintro l before after ⟨⟨contents, inside⟩, others⟩
        exact ⟨⟨contents, List.mem_append_left _ inside⟩, others⟩
      have here : (fs.putFiles files).get? file.1 ≠ some .directory := fun found =>
        free file (by simp) ((earlier.get?_eq_directory_iff _).1 found)
      rw [putFiles_append]
      exact earlier.trans isWritten_trans
        (changesBy_put (.file file.2) ⟨⟨file.2, by simp⟩, here, file.2, rfl⟩)

/-! ### What is new -/

/-- What is at a place now, and was not there before. -/
def IsNew (before after : FileSystem) (l : Location) (entry : Option Entry) : Prop :=
  after.get? l = entry ∧ before.get? l ≠ entry

/-- Files that are written for several reasons, in any order and any number of times: **what is new
is what is new for one of the reasons**, if no two reasons write different files at one place. -/
theorem isNew_putFiles_flatMap {α : Type} {as : List α} {writes : α → List (Location × ByteArray)}
    (inner : ∀ a ∈ as, ∀ file ∈ writes a, file.1 ≠ [])
    (agree : ∀ a ∈ as, ∀ b ∈ as, ∀ l contents contents',
      (l, contents) ∈ writes a → (l, contents') ∈ writes b → contents = contents')
    (l : Location) (entry : Option Entry) :
    fs.IsNew (fs.putFiles (as.flatMap writes)) l entry ↔
      ∃ a ∈ as, fs.IsNew (fs.putFiles (writes a)) l entry := by
  have alone {a : α} (inside : a ∈ as) {contents : ByteArray} (written : (l, contents) ∈ writes a) :
      (fs.putFiles (writes a)).get? l = some (.file contents) ∧
        (fs.putFiles (as.flatMap writes)).get? l = some (.file contents) := by
    have some := inner a inside _ written
    constructor
    · exact get?_putFiles_of_mem some written fun contents' also =>
        agree a inside a inside l _ _ also written
    · refine get?_putFiles_of_mem some (List.mem_flatMap.2 ⟨a, inside, written⟩) ?_
      intro contents' also
      obtain ⟨b, inside', written'⟩ := List.mem_flatMap.1 also
      exact agree b inside' a inside l _ _ written' written
  constructor
  · rintro ⟨found, before⟩
    obtain ⟨contents, written, -⟩ := exists_of_get?_putFiles_ne (found ▸ Ne.symm before)
    obtain ⟨a, inside, written⟩ := List.mem_flatMap.1 written
    refine ⟨a, inside, ?_, before⟩
    rw [(alone inside written).1, ← (alone inside written).2, found]
  · rintro ⟨a, inside, found, before⟩
    obtain ⟨contents, written, -⟩ := exists_of_get?_putFiles_ne (found ▸ Ne.symm before)
    refine ⟨?_, before⟩
    rw [(alone inside written).2, ← (alone inside written).1, found]

/-! ### Programs over a file system

Each operation gives a result and the file system that it leaves. -/

section

variable {σ α β : Type}

theorem bind_apply (x : StateM σ α) (f : α → StateM σ β) (s : σ) :
    (x >>= f) s = f (x s).1 (x s).2 := rfl

theorem pure_apply (a : α) (s : σ) : (pure a : StateM σ α) s = (a, s) := rfl

theorem map_apply (f : α → β) (x : StateM σ α) (s : σ) :
    (f <$> x) s = (f (x s).1, (x s).2) := rfl

theorem isDirectory_apply (p : Path) (fs : FileSystem) :
    (isDirectory p : StateM FileSystem Bool) fs = (fs.find? p == some .directory, fs) := rfl

theorem isFile_apply (p : Path) (fs : FileSystem) :
    (isFile p : StateM FileSystem Bool) fs = ((fs.find? p).any (· != .directory), fs) := rfl

theorem list_apply (p : Path) (fs : FileSystem) :
    (MonadFiles.list p : StateM FileSystem (Except SystemError (List Bytes))) fs =
      (fs.list p, fs) := rfl

theorem read_apply (p : Path) (fs : FileSystem) :
    (MonadFiles.read p : StateM FileSystem (Except SystemError ByteArray)) fs =
      (fs.read p, fs) := rfl

theorem makeDirectory_apply (p : Path) (fs : FileSystem) :
    (MonadFiles.makeDirectory p : StateM FileSystem (Except SystemError Unit)) fs =
      match fs.makeDirectory p with
      | .ok fs' => (.ok (), fs')
      | .error error => (.error error, fs) := rfl

theorem write_apply (p : Path) (contents : ByteArray) (fs : FileSystem) :
    (MonadFiles.write p contents : StateM FileSystem (Except SystemError Unit)) fs =
      match fs.target p with
      | .ok l => (.ok (), fs.put l (.file contents))
      | .error error => (.error error, fs) := by
  change (match fs.write p contents with
    | .ok fs' => ((.ok (), fs') : Except SystemError Unit × FileSystem)
    | .error error => (.error error, fs)) = _
  rw [write_eq]
  cases fs.target p <;> rfl

end

end FileSystem

end JackSyntax
