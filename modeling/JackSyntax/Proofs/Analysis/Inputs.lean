/-
**The inputs of a path.**

An input is a path that leads to a file and has the extension of source files.  So its file name is
a stem, a dot and the extension, and its file stands under this name in the home of the path.  The
inputs of a directory all stand in that directory, in the order of their names.

Main definitions:

* `FileSystem.isInput` — whether a path leads to a source file;
* `FileSystem.HasSource` — a source file with a stem in a directory;
* `FileSystem.inputs` — the inputs of a path;
* `Path.Precedes` — the order of file names.

Main results:

* `FileSystem.exists_hasSource` — every input is a source file with a stem;
* `FileSystem.inputsAt_apply` — finding inputs changes nothing;
* `FileSystem.inputs_directory` — **the inputs of a directory**;
* `FileSystem.inputs_of_isInput` — a source file is its own only input.
-/

import Mathlib.Data.List.Sort
import JackSyntax.Analysis.Inputs
import JackSyntax.Proofs.Files.Directories

set_option relaxedAutoImplicit false
set_option autoImplicit false

namespace JackSyntax

/-! ### Names in order -/

theorem insertName_eq (name : Bytes) (names : List Bytes) :
    insertName name names = names.orderedInsert (· ≤ ·) name := by
  induction names with
  | nil => rfl
  | cons other names ih => simp only [insertName, List.orderedInsert_cons, ih]

theorem sortNames_eq (names : List Bytes) : sortNames names = names.insertionSort (· ≤ ·) := by
  induction names with
  | nil => rfl
  | cons name names ih => rw [sortNames, insertName_eq, ih, List.insertionSort_cons]

/-- Names that are not given twice are sorted strictly. -/
theorem pairwise_sortNames {names : List Bytes} (distinct : names.Nodup) :
    (sortNames names).Pairwise (· < ·) := by
  have sorted := List.pairwise_insertionSort (· ≤ ·) names
  have distinct' := (List.perm_insertionSort (· ≤ ·) names).nodup_iff.2 distinct
  rw [sortNames_eq]
  exact (sorted.and distinct').imp fun both => Std.lt_of_le_of_ne both.1 both.2

theorem mem_sortNames {names : List Bytes} {name : Bytes} :
    name ∈ sortNames names ↔ name ∈ names := by
  rw [sortNames_eq, List.mem_insertionSort]

/-- The order in which names are given is lost. -/
theorem sortNames_of_perm {names names' : List Bytes} (same : names.Perm names') :
    sortNames names = sortNames names' := by
  rw [sortNames_eq, sortNames_eq]
  have perm : (names.insertionSort (· ≤ ·)).Perm (names'.insertionSort (· ≤ ·)) :=
    (List.perm_insertionSort _ names).trans (same.trans (List.perm_insertionSort _ names').symm)
  exact perm.eq_of_pairwise' (List.pairwise_insertionSort _ names)
    (List.pairwise_insertionSort _ names')

/-! ### Source files -/

/-- The name of the source file with a stem. -/
def sourceName (stem : Bytes) : Bytes := stem ++ dot :: bytesOf sourceExtension

theorem sourceName_eq (stem : Bytes) : sourceName stem = stem ++ bytesOf ".jack" := by
  rw [sourceName, List.append_cancel_left_eq]
  decide

/-- A path that is named after a stem has the extension of source files. -/
theorem Path.isSource_of_fileName {p : Path} {stem : Bytes} (some : stem ≠ [])
    (named : p.fileName? = Option.some (sourceName stem)) : p.isSource = true := by
  have parts : splitExtension (sourceName stem) = (stem, Option.some (bytesOf sourceExtension)) :=
    splitExtension_eq_some_iff.2 ⟨rfl, some, by decide⟩
  rw [isSource, beq_iff_eq, extension?, named, Option.bind_some, parts]

/-- A path with the extension of source files has a stem, and is named after it. -/
theorem Path.isSource_iff {p : Path} :
    p.isSource = true ↔
      ∃ stem, stem ≠ [] ∧ p.stem? = some stem ∧ p.fileName? = some (sourceName stem) := by
  refine ⟨?_, fun ⟨_, inner, _, named⟩ => isSource_of_fileName inner named⟩
  rw [isSource, beq_iff_eq, extension?, stem?]
  intro h
  obtain ⟨name, named, h⟩ := Option.bind_eq_some_iff.1 h
  obtain ⟨whole, inner, -⟩ := splitExtension_eq_some_iff.1 (Prod.ext rfl h)
  refine ⟨(splitExtension name).1, inner, by rw [named]; rfl, ?_⟩
  rw [named, Option.some.injEq]
  exact whole

/-- The order of the file names of paths. -/
def Path.Precedes (p q : Path) : Prop := p.fileName?.getD [] < q.fileName?.getD []

theorem Path.Precedes.ne {p q : Path} (h : p.Precedes q) : p ≠ q := by
  rintro rfl
  exact List.lt_irrefl _ h

namespace FileSystem

variable {fs fs' : FileSystem} {input path : Path} {stem : Bytes} {d : Location}

/-- Whether a path leads to a source file. -/
def isInput (fs : FileSystem) (p : Path) : Bool :=
  (fs.find? p).any (· != .directory) && p.isSource

theorem any_file_iff {entry : Option Entry} :
    entry.any (· != .directory) = true ↔ ∃ contents, entry = some (.file contents) := by
  cases entry with
  | none => simp
  | some entry => cases entry <;> simp

theorem isInput_iff :
    fs.isInput input = true ↔
      (∃ contents, fs.find? input = some (.file contents)) ∧ input.isSource = true := by
  rw [isInput, Bool.and_eq_true, any_file_iff]

/-- A path leads to the source file with a stem in a directory. -/
structure HasSource (fs : FileSystem) (input : Path) (stem : Bytes) (d : Location) : Prop where
  stem? : input.stem? = some stem
  fileName? : input.fileName? = some (sourceName stem)
  home : fs.directoryAt input.home = .ok d
  found : ∃ (n : FileName) (contents : ByteArray), n.bytes = sourceName stem ∧
    fs.locate input = .ok (n :: d) ∧ fs.get? (n :: d) = some (.file contents)

/-- Every input is a source file with a stem. -/
theorem exists_hasSource (h : fs.isInput input = true) : ∃ stem d, fs.HasSource input stem d := by
  obtain ⟨⟨contents, found⟩, source⟩ := isInput_iff.1 h
  obtain ⟨stem, -, stem?, named⟩ := Path.isSource_iff.1 source
  obtain ⟨n, d, name, home, located, there⟩ := locate_of_file named found
  exact ⟨stem, d, stem?, named, home, n, contents, name, located, there⟩

/-- A source file is there as long as directories and this file are. -/
theorem HasSource.mono (h : fs.HasSource input stem d) (keeps : fs.KeepsDirectories fs')
    (there : ∀ (n : FileName) (contents : ByteArray), n.bytes = sourceName stem →
      fs.get? (n :: d) = some (.file contents) → fs'.get? (n :: d) = some (.file contents)) :
    fs'.HasSource input stem d := by
  obtain ⟨n, contents, name, located, found⟩ := h.found
  exact ⟨h.stem?, h.fileName?, directoryAt_mono keeps h.home, n, contents, name,
    locate_mono keeps located, there n contents name found⟩

/-- A source file stays where directories are made. -/
theorem HasSource.of_isMade {places : Location → Prop} (h : fs.HasSource input stem d)
    (made : fs.ChangesBy (IsMade places) fs') : fs'.HasSource input stem d :=
  h.mono (keepsDirectories_of_isMade made) fun _ _ _ found =>
    (get?_eq_file_iff_of_isMade made _ _).2 found

/-! ### Listing them -/

theorem sourcesAmong_apply (directory : Path) (names : List Bytes) (fs : FileSystem) :
    sourcesAmong (m := StateM FileSystem) directory names fs =
      ((names.map directory.join).filter fs.isInput, fs) := by
  induction names with
  | nil => rfl
  | cons name names ih =>
      rw [sourcesAmong, bind_apply, isFile_apply, bind_apply, ih, pure_apply, List.map_cons]
      by_cases input : fs.isInput (directory.join name) = true
      · rw [List.filter_cons_of_pos input]
        exact Prod.ext (if_pos input) rfl
      · rw [List.filter_cons_of_neg input]
        exact Prod.ext (if_neg input) rfl

/-- The name of a place directly inside a directory. -/
def nameIn? (d : Location) : Location → Option FileName
  | name :: directory => if directory = d then some name else none
  | [] => none

theorem nameIn?_eq_some_iff {d l : Location} {name : FileName} :
    nameIn? d l = some name ↔ l = name :: d := by
  cases l with
  | nil => simp [nameIn?]
  | cons other directory =>
      rw [nameIn?, List.cons_eq_cons]
      by_cases same : directory = d
      · simp [same]
      · simp [same]

/-- The names inside a directory are those of its places. -/
theorem children_eq (fs : FileSystem) (d : Location) :
    fs.children d = (fs.entries.map Prod.fst).filterMap (nameIn? d) := by
  rw [List.filterMap_map]
  refine List.filterMap_congr fun entry _ => ?_
  obtain ⟨l, e⟩ := entry
  cases l <;> rfl

/-- The name of a place where something is, is among the names inside its directory. -/
theorem mem_children_of_get? {name : FileName} {e : Entry}
    (h : fs.get? (name :: d) = some e) : name ∈ fs.children d := by
  rw [get?, if_neg (List.cons_ne_nil _ _)] at h
  obtain ⟨before, after, whole, -⟩ := List.lookup_eq_some_iff.1 h
  have inside : (name :: d, e) ∈ fs.entries := whole ▸ List.mem_append_right _ List.mem_cons_self
  rw [children_eq]
  exact List.mem_filterMap.2 ⟨name :: d, List.mem_map_of_mem inside, nameIn?_eq_some_iff.2 rfl⟩

/-- No name is listed twice. -/
theorem nodup_children (fs : FileSystem) (d : Location) :
    ((fs.children d).map FileName.bytes).Nodup := by
  rw [List.nodup_map_iff FileName.bytes_injective, children_eq]
  refine fs.distinct.filterMap fun l l' name h h' => ?_
  exact (nameIn?_eq_some_iff.1 h).trans (nameIn?_eq_some_iff.1 h').symm

/-- The inputs that a path names, as a function of the file system. -/
def inputs (fs : FileSystem) (path : Path) : Except AnalysisError (List Path) :=
  if fs.find? path = some .directory then
    match fs.list path with
    | .ok names => .ok (((sortNames names).map path.join).filter fs.isInput)
    | .error error => .error (.system path error)
  else if fs.isInput path then .ok [path]
  else .error (.invalidPath path)

/-- Finding inputs changes nothing. -/
theorem inputsAt_apply (path : Path) (fs : FileSystem) :
    inputsAt (m := StateM FileSystem) path fs = (fs.inputs path, fs) := by
  rw [inputsAt, bind_apply, isDirectory_apply, inputs]
  by_cases directory : fs.find? path = some .directory
  · rw [if_pos (beq_iff_eq.2 directory), if_pos directory, bind_apply, list_apply]
    cases fs.list path with
    | error error => rfl
    | ok names =>
        dsimp only
        rw [bind_apply, sourcesAmong_apply, pure_apply]
  · rw [if_neg (mt beq_iff_eq.1 directory), if_neg directory, bind_apply, isFile_apply]
    dsimp only
    by_cases file : (fs.find? path).any (· != .directory) = true
    · by_cases source : path.isSource = true
      · simp only [isInput, file, source]
        rfl
      · simp only [isInput, file, source]
        rfl
    · simp only [isInput, file]
      rfl

/-- Every path that is found leads to a source file. -/
theorem isInput_of_mem_inputs {found : List Path} (h : fs.inputs path = .ok found)
    (inside : input ∈ found) : fs.isInput input = true := by
  unfold inputs at h
  split at h
  · split at h
    · obtain rfl := Except.ok.inj h
      exact (List.mem_filter.1 inside).2
    · cases h
  · split at h
    · rename_i source
      obtain rfl := Except.ok.inj h
      rwa [List.mem_singleton.1 inside]
    · cases h

/-- A source file is its own only input. -/
theorem inputs_of_isInput (h : fs.isInput input = true) : fs.inputs input = .ok [input] := by
  obtain ⟨⟨contents, found⟩, -⟩ := isInput_iff.1 h
  rw [inputs, if_neg (by rw [found]; exact nofun), if_pos h]

/-- The names inside a directory are listed, unless the system refuses to read it. -/
theorem list_of_directory (located : fs.locate path = .ok d) (there : fs.get? d = some .directory) :
    fs.list path =
      (fs.refusals.read d).elim (.ok ((fs.children d).map FileName.bytes)) .error := by
  obtain ⟨origin, walked⟩ := locate_eq_ok_iff.1 located
  rw [list, origin]
  simp only [bind, Except.bind, enter_eq_ok_iff.2 ⟨walked, there⟩]
  cases fs.refusals.read d <;> rfl

/-- The inputs of a directory are made from the names inside it. -/
theorem inputs_of_directory (located : fs.locate path = .ok d)
    (there : fs.get? d = some .directory) :
    fs.inputs path = (fs.refusals.read d).elim
      (.ok (((sortNames ((fs.children d).map FileName.bytes)).map path.join).filter fs.isInput))
      fun error => .error (.system path error) := by
  rw [inputs, if_pos (find?_eq_some_iff.2 ⟨d, located, there⟩), list_of_directory located there]
  cases fs.refusals.read d <;> rfl

theorem isPlain_of_mem_sortNames {name : Bytes}
    (h : name ∈ sortNames ((fs.children d).map FileName.bytes)) : IsPlain name := by
  obtain ⟨n, -, rfl⟩ := List.mem_map.1 (mem_sortNames.1 h)
  exact n.isPlain

/-- **The inputs of a directory are source files in it, in the order of their names.** -/
theorem inputs_directory {found : List Path} (h : fs.find? path = some .directory)
    (all : fs.inputs path = .ok found) :
    ∃ d, (∀ input ∈ found, ∃ stem, fs.HasSource input stem d) ∧ found.Pairwise Path.Precedes := by
  obtain ⟨d, located, entered⟩ := directoryAt_of_find? h
  have there := (enter_eq_ok_iff.1 entered).2
  rw [inputs_of_directory located there] at all
  cases readable : fs.refusals.read d with
  | some error =>
      rw [readable] at all
      cases all
  | none =>
  rw [readable] at all
  obtain rfl := Except.ok.inj all
  refine ⟨d, fun input inside => ?_, ?_⟩
  · obtain ⟨inside, source⟩ := List.mem_filter.1 inside
    obtain ⟨name, listed, rfl⟩ := List.mem_map.1 inside
    obtain ⟨n, -, rfl⟩ := List.mem_map.1 (mem_sortNames.1 listed)
    obtain ⟨stem, d', found⟩ := exists_hasSource source
    obtain ⟨n', contents, -, located', -⟩ := found.found
    -- the path leads to a place in the directory, by way of its home
    have same := locate_join (locate_eq_ok_iff.1 located').1 entered
    obtain ⟨-, rfl⟩ := List.cons_eq_cons.1 (Except.ok.inj (located'.symm.trans same))
    exact ⟨stem, found⟩
  · refine List.Pairwise.filter _ (List.pairwise_map.2 ?_)
    refine (pairwise_sortNames (nodup_children fs d)).imp_of_mem fun inside inside' before => ?_
    rw [Path.Precedes, Path.fileName?_join _ (isPlain_of_mem_sortNames inside),
      Path.fileName?_join _ (isPlain_of_mem_sortNames inside')]
    exact before

/-- The inputs of a directory have the same home. -/
theorem home_eq_of_mem_inputs {found : List Path} (h : fs.find? path = some .directory)
    (all : fs.inputs path = .ok found) {input other : Path} (inside : input ∈ found)
    (inside' : other ∈ found) : input.home = other.home := by
  obtain ⟨d, located, entered⟩ := directoryAt_of_find? h
  have there := (enter_eq_ok_iff.1 entered).2
  rw [inputs, if_pos h, list_of_directory located there] at all
  obtain ⟨home, same⟩ := path.exists_home_join
  have joined {input : Path} (inside : input ∈ found) : input.home = home := by
    cases readable : fs.refusals.read d with
    | some error =>
        rw [readable] at all
        cases all
    | none =>
        rw [readable] at all
        obtain rfl := Except.ok.inj all
        obtain ⟨inside, -⟩ := List.mem_filter.1 inside
        obtain ⟨name, listed, rfl⟩ := List.mem_map.1 inside
        exact same name (isPlain_of_mem_sortNames listed)
  rw [joined inside, joined inside']

end FileSystem

end JackSyntax
