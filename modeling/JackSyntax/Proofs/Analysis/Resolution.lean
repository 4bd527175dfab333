/-
**Inputs do not depend on how a directory is listed.**

A file system gives the names inside a directory in an order of its own.  Here this order is taken
as given, any rearrangement whatever, and inputs are found with it.  Since the names are sorted, the
order is lost: a path to a directory names the source files directly inside it, in the order of the
bytes of their names, which is also the order of their paths, component by component.  If the system
refuses to read the directory, this is reported.

A source file is passed over if its path is too long for the system, which then does not say that
it is a file.  The length is that of the bytes, to which slashes at the end of a path count although
they lead nowhere.

Main definitions:

* `Path.Before` — the order of paths, component by component;
* `FileSystem.IsSourceIn`, `FileSystem.LeadsToSource` — a source file in a directory, and a path
  that leads to one;
* `FileSystem.Ordered` — a file system that lists names in an order of its own;
* `FileSystem.IsListing`, `FileSystem.IsResolved` — what the inputs of a directory and of any path
  have to be.

Main results:

* `FileSystem.leadsToSource_iff_of_isTree` — the file name of a path is the name of its place;
* `FileSystem.inputsAt_eq_unlisted` — the order of the listing is lost;
* `FileSystem.isInput_join_iff` — which names inside a directory give inputs;
* `FileSystem.inputs_are_resolved_in_any_order` — **the inputs of a path, in any order of listing**;
* `FileSystem.IsListing.mem_iff_of_short`, `FileSystem.IsListing.eq_nil` — paths that are short
  enough for all source files, and too long for any.
-/

import Mathlib.Data.List.Lex
import JackSyntax.Proofs.Analysis.Inputs
import JackSyntax.Proofs.Files.Components

set_option relaxedAutoImplicit false
set_option autoImplicit false

namespace JackSyntax

/-! ### The order of paths -/

/-- The order of the parts of a path: a root comes first, then a dot in front, then the step to the
enclosing directory, and names come last, in the order of their bytes. -/
def Component.Precedes : Component → Component → Prop
  | .name first, .name second => first < second
  | .root, second => second ≠ .root
  | .here, second => second ≠ .root ∧ second ≠ .here
  | .up, .name _ => True
  | _, _ => False

namespace Path

/-- The order of paths, component by component. -/
def Before (p q : Path) : Prop := List.Lex Component.Precedes p.components q.components

/-- Names inside one directory are ordered by their bytes, however the directory is written. -/
theorem before_join (directory : Path) {first second : Bytes} (plain : IsPlain first)
    (plain' : IsPlain second) (smaller : first < second) :
    (directory.join first).Before (directory.join second) := by
  rw [Before, components_join directory plain, components_join directory plain']
  have last : Component.Precedes (.name first) (.name second) := smaller
  exact List.Lex.append_left _ (.rel last) _

/-! ### Slashes at the end -/

/-- A path with slashes at its end. -/
def withSlashes (p : Path) (n : Nat) : Path := ⟨p.bytes ++ List.replicate n slash⟩

theorem course_withSlashes (p : Path) (n : Nat) : (p.withSlashes n).course = p.course := by
  rw [course_eq, course_eq, withSlashes]
  induction n with
  | zero => rw [List.replicate_zero, List.append_nil]
  | succ n ih =>
      rw [List.replicate_succ', ← List.append_assoc, leading_slash, ih, leading_nil,
        List.append_nil]

theorem isAbsolute_withSlashes {p : Path} (some : p.bytes ≠ []) (n : Nat) :
    (p.withSlashes n).isAbsolute = p.isAbsolute := by
  obtain ⟨byte, rest, bytes⟩ := List.exists_cons_of_ne_nil some
  rw [isAbsolute, isAbsolute, withSlashes, bytes]
  rfl

theorem length_withSlashes (p : Path) (n : Nat) :
    (p.withSlashes n).bytes.length = p.bytes.length + n := by
  rw [withSlashes, List.length_append, List.length_replicate]

end Path

namespace FileSystem

variable {fs : FileSystem} {path : Path} {d : Location} {name : FileName}

/-! ### Sources -/

/-- A name inside a directory is that of a source file: there is a file, and its name is a stem and
the extension of source files. -/
def IsSourceIn (fs : FileSystem) (d : Location) (name : FileName) : Prop :=
  (∃ stem, stem ≠ [] ∧ name.bytes = stem ++ bytesOf ".jack") ∧
    ∃ contents, fs.get? (name :: d) = some (.file contents)

/-- A path leads to a source file, whose name is the file name of the path. -/
def LeadsToSource (fs : FileSystem) (path : Path) : Prop :=
  ∃ name d, path.fileName? = some name.bytes ∧ fs.locate path = .ok (name :: d) ∧
    fs.IsSourceIn d name

/-- Inputs are the paths that lead to source files. -/
theorem isInput_iff_leadsToSource : fs.isInput path = true ↔ fs.LeadsToSource path := by
  constructor
  · intro input
    obtain ⟨⟨contents, found⟩, source⟩ := isInput_iff.1 input
    obtain ⟨stem, some, -, named⟩ := Path.isSource_iff.1 source
    obtain ⟨name, d, whole, -, located, there⟩ := locate_of_file named found
    rw [← whole] at named
    exact ⟨name, d, named, located, ⟨stem, some, whole.trans (sourceName_eq stem)⟩, contents, there⟩
  · rintro ⟨name, d, named, located, ⟨stem, some, whole⟩, contents, there⟩
    rw [whole, ← sourceName_eq] at named
    exact isInput_iff.2 ⟨⟨contents, find?_eq_some_iff.2 ⟨_, located, there⟩⟩,
      Path.isSource_of_fileName some named⟩

/-! ### File names of places -/

/-- Every place is inside a directory. -/
def IsTree (fs : FileSystem) : Prop :=
  ∀ (name : FileName) (d : Location), fs.get? (name :: d) ≠ none → fs.get? d = some .directory

/-- In a tree the file name of a path that leads to a file is the name of the file. -/
theorem fileName?_of_locate (tree : fs.IsTree) {contents : ByteArray}
    (located : fs.locate path = .ok (name :: d))
    (found : fs.get? (name :: d) = some (.file contents)) : path.fileName? = some name.bytes := by
  obtain ⟨-, walked⟩ := locate_eq_ok_iff.1 located
  obtain ⟨before, last, steps⟩ := path.exists_steps_eq_concat
  rw [steps, walk_concat_eq_ok_iff] at walked
  obtain ⟨here, s, entered, read, applied⟩ := walked
  have directory := (enter_eq_ok_iff.1 entered).2
  cases s with
  | stay =>
      rw [show here = name :: d from applied, found] at directory
      cases directory
  | up =>
      -- the place around a directory is not a file
      cases here with
      | nil => cases applied
      | cons inner around =>
          have outer := tree inner around (by rw [directory]; exact nofun)
          rw [show around = name :: d from applied, found] at outer
          cases outer
  | down other =>
      obtain ⟨rfl, rfl⟩ := List.cons_eq_cons.1 applied
      obtain rfl := Step.bytes_of_ofBytes read
      refine Path.fileName?_eq_some_iff.2 ⟨other.isPlain.name, ?_⟩
      rw [Path.course, steps, List.filter_append]
      simp [other.isPlain.busy]

/-- In a tree it is the name of the place that makes a source file. -/
theorem leadsToSource_iff_of_isTree (tree : fs.IsTree) :
    fs.LeadsToSource path ↔ ∃ name d, fs.locate path = .ok (name :: d) ∧ fs.IsSourceIn d name := by
  constructor
  · rintro ⟨name, d, -, located, source⟩
    exact ⟨name, d, located, source⟩
  · rintro ⟨name, d, located, source⟩
    obtain ⟨contents, found⟩ := source.2
    exact ⟨name, d, fileName?_of_locate tree located found, located, source⟩

/-! ### Listing in some order -/

/-- A file system that lists the names inside a directory in an order of its own. -/
structure Ordered where
  files : FileSystem
  /-- The names inside the directory of a path, as they are listed. -/
  order : Path → List Bytes → List Bytes
  /-- No name is left out, and none is listed more often. -/
  shuffles : ∀ p names, (order p names).Perm names

/-- A program that lists no directory. -/
def unlisted {α : Type} (x : StateM FileSystem α) : StateM Ordered α :=
  fun s => ((x s.files).1, { s with files := (x s.files).2 })

instance : MonadFiles (StateM Ordered) where
  isDirectory p := unlisted (isDirectory p)
  isFile p := unlisted (isFile p)
  list p := fun s => ((s.files.list p).map (s.order p), s)
  read p := unlisted (MonadFiles.read p)
  write p contents := unlisted (MonadFiles.write p contents)
  makeDirectory p := unlisted (MonadFiles.makeDirectory p)

theorem unlisted_bind {α β : Type} (x : StateM FileSystem α) (f : α → StateM FileSystem β) :
    unlisted (x >>= f) = unlisted x >>= fun a => unlisted (f a) := rfl

theorem sourcesAmong_eq_unlisted (directory : Path) (names : List Bytes) :
    sourcesAmong (m := StateM Ordered) directory names =
      unlisted (sourcesAmong directory names) := by
  induction names with
  | nil => rfl
  | cons name names ih =>
      rw [sourcesAmong, ih]
      rfl

/-- The order of the listing is lost. -/
theorem inputsAt_eq_unlisted (path : Path) :
    inputsAt (m := StateM Ordered) path = unlisted (inputsAt path) := by
  rw [inputsAt, inputsAt, unlisted_bind]
  refine bind_congr fun directory => ?_
  cases directory with
  | false =>
      rw [if_neg Bool.false_ne_true, if_neg Bool.false_ne_true, unlisted_bind]
      refine bind_congr fun file => ?_
      cases file <;> rfl
  | true =>
      rw [if_pos rfl, if_pos rfl]
      funext s
      have listed : (MonadFiles.list path : StateM Ordered _) s =
          ((s.files.list path).map (s.order path), s) := rfl
      have listed' : (MonadFiles.list path : StateM FileSystem _) s.files =
          (s.files.list path, s.files) := rfl
      simp only [bind, StateT.bind, unlisted, listed, listed']
      cases s.files.list path with
      | error error => rfl
      | ok names =>
          have same := sortNames_of_perm (s.shuffles path names)
          simp only [Except.map, sourcesAmong_eq_unlisted, same]
          rfl

/-- Finding inputs comes to the same in every order of listing, and changes nothing. -/
theorem inputsAt_ordered_apply (path : Path) (s : Ordered) :
    inputsAt (m := StateM Ordered) path s = (s.files.inputs path, s) := by
  rw [inputsAt_eq_unlisted, unlisted, inputsAt_apply]

/-! ### The inputs of a path -/

/-- A name inside a directory gives an input if it is that of a source file and its path is not too
long. -/
theorem isInput_join_iff (located : fs.locate path = .ok d) (there : fs.get? d = some .directory)
    (name : FileName) :
    fs.isInput (path.join name.bytes) = true ↔
      fs.IsSourceIn d name ∧ (path.join name.bytes).bytes.length ≤ maxPathSize := by
  have begins := (locate_eq_ok_iff.1 located).1
  have entered := directoryAt_of_locate located there
  rw [isInput_iff_leadsToSource]
  constructor
  · rintro ⟨name', d', named, found, source⟩
    have begins' := (locate_eq_ok_iff.1 found).1
    have same := locate_join begins' entered
    obtain ⟨rfl, rfl⟩ := List.cons_eq_cons.1 (Except.ok.inj (found.symm.trans same))
    exact ⟨source, (origin_join_iff name' begins).1 begins'⟩
  · rintro ⟨source, short⟩
    exact ⟨name, d, Path.fileName?_join path name.isPlain,
      locate_join ((origin_join_iff name begins).2 short) entered, source⟩

/-- What the inputs of a path to a directory have to be. -/
structure IsListing (fs : FileSystem) (path : Path) (d : Location) (found : List Path) : Prop where
  /-- They are the paths of the source files directly inside the directory, but for those that are
  too long. -/
  mem_iff : ∀ input, input ∈ found ↔
    ∃ name, fs.IsSourceIn d name ∧ input = path.join name.bytes ∧
      input.bytes.length ≤ maxPathSize
  /-- The bytes of their file names ascend, so that none is there twice. -/
  ascending : found.Pairwise fun p q => p.fileName?.getD [] < q.fileName?.getD []
  /-- The paths ascend, component by component. -/
  sorted : found.Pairwise Path.Before

theorem isListing_inputs (located : fs.locate path = .ok d) (there : fs.get? d = some .directory)
    (readable : fs.refusals.read d = none) :
    ∃ found, fs.inputs path = .ok found ∧ fs.IsListing path d found := by
  have inputs := inputs_of_directory located there
  rw [readable] at inputs
  refine ⟨_, inputs, fun input => ?_, ?_, ?_⟩
  · rw [List.mem_filter, List.mem_map]
    constructor
    · rintro ⟨⟨bytes, listed, rfl⟩, input⟩
      obtain ⟨name, -, rfl⟩ := List.mem_map.1 (mem_sortNames.1 listed)
      obtain ⟨source, short⟩ := (isInput_join_iff located there name).1 input
      exact ⟨name, source, rfl, short⟩
    · rintro ⟨name, source, rfl, short⟩
      obtain ⟨contents, found⟩ := source.2
      have listed := List.mem_map_of_mem (f := FileName.bytes) (mem_children_of_get? found)
      exact ⟨⟨name.bytes, mem_sortNames.2 listed, rfl⟩,
        (isInput_join_iff located there name).2 ⟨source, short⟩⟩
  all_goals
    refine List.Pairwise.filter _ (List.pairwise_map.2 ?_)
    refine (pairwise_sortNames (nodup_children fs d)).imp_of_mem fun inside inside' before => ?_
    have plain := isPlain_of_mem_sortNames inside
    have plain' := isPlain_of_mem_sortNames inside'
  · rw [Path.fileName?_join _ plain, Path.fileName?_join _ plain']
    exact before
  · exact Path.before_join path plain plain' before

/-- What a path has to be resolved to. -/
structure IsResolved (fs : FileSystem) (path : Path) (answer : Except AnalysisError (List Path)) :
    Prop where
  /-- A directory has its listing. -/
  directory : ∀ d, fs.locate path = .ok d → fs.get? d = some .directory →
    fs.refusals.read d = none → ∃ found, answer = .ok found ∧ fs.IsListing path d found
  /-- A directory that the system refuses to read has none, and the cause is given. -/
  unreadable : ∀ d error, fs.locate path = .ok d → fs.get? d = some .directory →
    fs.refusals.read d = some error → answer = .error (.system path error)
  /-- A source file is its own only input. -/
  file : fs.LeadsToSource path → answer = .ok [path]
  /-- Every other path is refused. -/
  other : fs.find? path ≠ some .directory → ¬ fs.LeadsToSource path →
    answer = .error (.invalidPath path)

theorem isResolved_inputs (fs : FileSystem) (path : Path) :
    fs.IsResolved path (fs.inputs path) where
  directory _ located there readable := isListing_inputs located there readable
  unreadable d error located there refused := by
    rw [inputs_of_directory located there, refused]
    rfl
  file source := inputs_of_isInput (isInput_iff_leadsToSource.2 source)
  other noDirectory none := by
    rw [inputs, if_neg noDirectory, if_neg (mt isInput_iff_leadsToSource.1 none)]

/-- **The inputs of a path do not depend on the order in which names are listed.**  Those of a
directory are the source files directly inside it whose paths are not too long, each once and in the
order of the bytes of their names; a source file is its own only input; and every other path is
refused. -/
theorem inputs_are_resolved_in_any_order (path : Path) (s : Ordered) :
    ∃ answer, inputsAt (m := StateM Ordered) path s = (answer, s) ∧
      s.files.IsResolved path answer :=
  ⟨s.files.inputs path, inputsAt_ordered_apply path s, isResolved_inputs s.files path⟩

/-! ### Paths that are too long -/

/-- Slashes at the end of a path lead nowhere. -/
theorem locate_withSlashes (located : fs.locate path = .ok d) (there : fs.get? d = some .directory)
    {n : Nat} (short : path.bytes.length + n ≤ maxPathSize) :
    fs.locate (path.withSlashes n) = .ok d := by
  obtain ⟨clean, some, -⟩ := origin_eq_ok_iff.1 (locate_eq_ok_iff.1 located).1
  have entered := directoryAt_of_locate located there
  have begins : fs.origin (path.withSlashes n) = .ok (fs.start (path.withSlashes n)) := by
    refine origin_eq_ok_iff.2 ⟨?_, ?_, ?_⟩
    · have noSlash : (0 : UInt8) ∉ List.replicate n slash := fun inside =>
        absurd (List.eq_of_mem_replicate inside) (by decide)
      exact fun inside => (List.mem_append.1 inside).elim clean noSlash
    · exact List.append_ne_nil_of_left_ne_nil some _
    · rwa [Path.length_withSlashes]
  refine locate_eq_ok_iff.2 ⟨begins, (enter_eq_ok_iff.1 ?_).1⟩
  rw [← enter_filter, start, Path.isAbsolute_withSlashes some]
  rw [directoryAt, start, ← Path.course_withSlashes path n] at entered
  exact entered

/-- If a path is too long for the shortest name of a source file, all of them are passed over. -/
theorem IsListing.eq_nil {found : List Path} (listing : fs.IsListing path d found)
    (long : maxPathSize < path.bytes.length + (bytesOf "x.jack").length) : found = [] := by
  refine List.eq_nil_iff_forall_not_mem.2 fun input inside => ?_
  obtain ⟨name, ⟨⟨stem, some, whole⟩, -⟩, rfl, short⟩ := (listing.mem_iff input).1 inside
  have both := (path.length_join name.isPlain).1
  have stemSize : 0 < stem.length := List.length_pos_of_ne_nil some
  have ending : (bytesOf ".jack").length = 5 := by decide
  have nameSize : name.bytes.length = stem.length + 5 := by
    rw [whole, List.length_append, ending]
  have shortest : (bytesOf "x.jack").length = 6 := by decide
  omega

/-- If a path is short enough for the longest name, no source file is passed over. -/
theorem IsListing.mem_iff_of_short {found : List Path} (listing : fs.IsListing path d found)
    (short : path.bytes.length + 1 + maxNameSize ≤ maxPathSize) (input : Path) :
    input ∈ found ↔ ∃ name, fs.IsSourceIn d name ∧ input = path.join name.bytes := by
  rw [listing.mem_iff]
  refine ⟨fun ⟨name, source, same, _⟩ => ⟨name, source, same⟩, ?_⟩
  rintro ⟨name, source, rfl⟩
  have both := (path.length_join name.isPlain).2
  have size := name.length_le
  exact ⟨name, source, rfl, by omega⟩

/-- The place of a directory in the root. -/
def shelf : Location := [⟨bytesOf "e", by decide⟩]

/-- This directory with a source file in it, listed as it is. -/
def shelved : Ordered where
  files := ((empty []).put shelf .directory).put (⟨bytesOf "B.jack", by decide⟩ :: shelf)
    (.file "class B { }".toUTF8)
  order _ names := names
  shuffles _ names := .refl names

/-- With so many slashes behind the path of a directory that no source file has a path that is short
enough, there are no inputs, though the path leads to the directory and a source file is inside. -/
theorem source_behind_many_slashes_is_passed_over :
    shelved.files.locate ((⟨"e"⟩ : Path).withSlashes 4089) = .ok shelf ∧
      shelved.files.get? shelf = some .directory ∧
      shelved.files.IsSourceIn shelf ⟨bytesOf "B.jack", by decide⟩ ∧
      inputsAt (m := StateM Ordered) ((⟨"e"⟩ : Path).withSlashes 4089) shelved =
        (.ok [], shelved) := by
  have there : shelved.files.get? shelf = some .directory := by decide
  have located : shelved.files.locate ((⟨"e"⟩ : Path).withSlashes 4089) = .ok shelf :=
    locate_withSlashes (by decide) there (by decide)
  refine ⟨located, there, ⟨⟨bytesOf "B", by decide, by decide⟩, _, rfl⟩, ?_⟩
  obtain ⟨found, inputs, listing⟩ := isListing_inputs located there rfl
  rw [inputsAt_ordered_apply, inputs, listing.eq_nil]
  rw [Path.length_withSlashes]
  decide

end FileSystem

end JackSyntax
