/-
**File systems.**

A file system without links is a finite set of places, each a file or a directory.  A place is given
by its name, the name of the directory around it, and so on up to the root.  The system may refuse
to read what is at a place, or to write there.

Main definitions:

* `maxNameSize` — how long a name may be, `FileName` — a name inside a directory;
* `Location` — a place, `Entry` — what is there;
* `Refusals` — which places cannot be read and written;
* `FileSystem` — the entries, the refusals, and the directory in which relative paths begin;
* `FileSystem.get?` — what is at a place, `FileSystem.put` — the file system with a new entry;
* `FileSystem.children` — the names directly inside a directory;
* `FileSystem.changes` — what one file system has and another has not.

Main results:

* `FileSystem.get?_put` — a new entry is found at its place, and nothing else changes.
-/

import JackSyntax.FileSystem.Access

set_option relaxedAutoImplicit false
set_option autoImplicit false

namespace JackSyntax

/-- The size of the longest name inside a directory, in bytes. -/
def maxNameSize : Nat := 255

/-- Whether bytes can be a name inside a directory: there are some and not too many, none of them is
a slash or zero, and they are neither of the steps that lead to the directory itself and to the one
around it. -/
def isFileName (name : Bytes) : Bool :=
  name != [] && name != [dot] && name != [dot, dot] && name.length ≤ maxNameSize &&
    !name.contains slash && !name.contains 0

/-- A name inside a directory. -/
structure FileName where
  bytes : Bytes
  valid : isFileName bytes = true
  deriving DecidableEq

/-- The name with given bytes, if there can be one. -/
def FileName.ofBytes? (bytes : Bytes) : Option FileName :=
  if valid : isFileName bytes = true then some ⟨bytes, valid⟩ else none

@[simp] theorem FileName.ofBytes?_bytes (name : FileName) : ofBytes? name.bytes = some name := by
  simp [ofBytes?, name.valid]

/-- A place in a file system: its name and those of the directories around it, innermost first.
The root has no name. -/
abbrev Location := List FileName

/-- What is at a place. -/
inductive Entry where
  | file (contents : ByteArray)
  | directory

/-- Files are equal if their contents are. -/
instance : DecidableEq Entry
  | .directory, .directory => .isTrue rfl
  | .file a, .file b =>
      match ByteArray.instDecidableEq a b with
      | .isTrue same => .isTrue (congrArg Entry.file same)
      | .isFalse differ => .isFalse fun same => differ (Entry.file.inj same)
  | .directory, .file _ => .isFalse nofun
  | .file _, .directory => .isFalse nofun

/-- Which places the system refuses to read and to write, and why. -/
structure Refusals where
  /-- Why the file at a place cannot be read, or the directory listed, if it cannot. -/
  read : Location → Option SystemError
  /-- Why nothing can be written or made at a place, if nothing can. -/
  write : Location → Option SystemError

/-- Nothing is refused. -/
def Refusals.none : Refusals := ⟨fun _ => .none, fun _ => .none⟩

/-- A file system without links. -/
structure FileSystem where
  /-- What is at each place other than the root. -/
  entries : List (Location × Entry)
  /-- Where relative paths begin. -/
  workingDirectory : Location
  refusals : Refusals
  /-- There is one entry at a place. -/
  distinct : (entries.map Prod.fst).Nodup

namespace FileSystem

/-- A file system with nothing in it, in which nothing is refused. -/
def empty (workingDirectory : Location) : FileSystem := ⟨[], workingDirectory, .none, by simp⟩

/-- What is at a place.  The root is a directory. -/
def get? (fs : FileSystem) (l : Location) : Option Entry :=
  if l = [] then some .directory else fs.entries.lookup l

/-- The file system with an entry at a place, in place of what was there. -/
def put (fs : FileSystem) (l : Location) (e : Entry) : FileSystem where
  entries := (l, e) :: fs.entries.filter fun entry => entry.1 != l
  workingDirectory := fs.workingDirectory
  refusals := fs.refusals
  distinct := by
    rw [List.map_cons, List.nodup_cons]
    refine ⟨by simp, ?_⟩
    exact fs.distinct.sublist (List.filter_sublist.map Prod.fst)

@[simp] theorem workingDirectory_put (fs : FileSystem) (l : Location) (e : Entry) :
    (fs.put l e).workingDirectory = fs.workingDirectory := rfl

@[simp] theorem refusals_put (fs : FileSystem) (l : Location) (e : Entry) :
    (fs.put l e).refusals = fs.refusals := rfl

theorem lookup_filter_of_ne (entries : List (Location × Entry)) {l l' : Location} (h : l' ≠ l) :
    (entries.filter fun entry => entry.1 != l).lookup l' = entries.lookup l' := by
  induction entries with
  | nil => rfl
  | cons entry entries ih =>
      by_cases same : entry.1 = l
      · have other : (l' == entry.1) = false := by simpa [same] using h
        rw [List.filter_cons_of_neg (by simp [same]), ih, List.lookup_cons, other]
      · rw [List.filter_cons_of_pos (by simpa using same), List.lookup_cons, List.lookup_cons, ih]

/-- A new entry is found at its place, and the other places keep theirs. -/
theorem get?_put (fs : FileSystem) (l l' : Location) (e : Entry) :
    (fs.put l e).get? l' =
      if l' = [] then some .directory else if l' = l then some e else fs.get? l' := by
  by_cases root : l' = []
  · simp [get?, root]
  · by_cases same : l' = l
    · subst same
      simp [get?, put, root]
    · have other : (l' == l) = false := by simpa using same
      simp [get?, put, root, same, List.lookup_cons, other, lookup_filter_of_ne _ same]

/-- The names directly inside a directory, in no particular order. -/
def children (fs : FileSystem) (l : Location) : List FileName :=
  fs.entries.filterMap fun entry =>
    match entry.1 with
    | name :: directory => if directory = l then some name else none
    | [] => none

/-- The entries of `after` that `before` has not. -/
def changes (before after : FileSystem) : List (Location × Entry) :=
  after.entries.filter fun entry => before.get? entry.1 != some entry.2

end FileSystem

end JackSyntax
