/-
**Operations on a file system.**

A path is followed step by step, and every step, an idle one included, has to start in a directory.
Paths and names that are too long are refused, and so are paths that hold the byte zero and places
that the system does not let be read or written.

Main definitions:

* `Step` — what a step of a path does, `Step.ofBytes` — the step with given bytes;
* `FileSystem.step`, `FileSystem.walk` — one step and several;
* `FileSystem.origin` — where a path begins, if it is not refused;
* `FileSystem.locate` — the place that a path leads to, `FileSystem.find?` — what is there;
* `FileSystem.read`, `FileSystem.list`, `FileSystem.write`, `FileSystem.makeDirectory` — the
  operations, and the instance of `MonadFiles` that they make up.
-/

import JackSyntax.FileSystem.Access
import JackSyntax.FileSystem.Store

set_option relaxedAutoImplicit false
set_option autoImplicit false

namespace JackSyntax

/-- What a step of a path does. -/
inductive Step where
  /-- It stays where it is. -/
  | stay
  /-- It leads to the enclosing directory. -/
  | up
  /-- It leads to what has a name inside the directory. -/
  | down (name : FileName)
  deriving DecidableEq

/-- The step with given bytes, none of which is a slash or zero: if they are no name for all that,
they are too many. -/
def Step.ofBytes (bytes : Bytes) : Except SystemError Step :=
  if bytes = [] ∨ bytes = [dot] then .ok .stay
  else if bytes = [dot, dot] then .ok .up
  else
    match FileName.ofBytes? bytes with
    | some name => .ok (.down name)
    | none => .error .nameTooLong

namespace FileSystem

/-- The size of the longest path that is not refused, in bytes. -/
def maxPathSize : Nat := 4095

/-- Takes one step from a place, which has to be a directory. -/
def step (fs : FileSystem) (here : Location) (bytes : Bytes) : Except SystemError Location :=
  match fs.get? here with
  | none => .error .notFound
  | some (.file _) => .error .notADirectory
  | some .directory => do
      match ← Step.ofBytes bytes with
      | .stay => .ok here
      | .up => .ok here.tail
      | .down name => .ok (name :: here)

/-- Takes steps from a place one after the other. -/
def walk (fs : FileSystem) (here : Location) (steps : List Bytes) : Except SystemError Location :=
  steps.foldlM fs.step here

/-- The directory to which steps lead. -/
def enter (fs : FileSystem) (here : Location) (steps : List Bytes) :
    Except SystemError Location := do
  fs.step (← fs.walk here steps) [dot]

/-- Where the first step of a path starts, if the path is not refused. -/
def origin (fs : FileSystem) (p : Path) : Except SystemError Location :=
  if p.bytes.contains 0 then .error .nulCharacter
  else if p.bytes.isEmpty then .error .notFound
  else if maxPathSize < p.bytes.length then .error .nameTooLong
  else if p.isAbsolute then .ok []
  else .ok fs.workingDirectory

/-- The place that a path leads to, whether or not anything is there. -/
def locate (fs : FileSystem) (p : Path) : Except SystemError Location := do
  fs.walk (← fs.origin p) p.steps

/-- What a path leads to. -/
def find? (fs : FileSystem) (p : Path) : Option Entry :=
  match fs.locate p with
  | .ok l => fs.get? l
  | .error _ => none

/-- The contents of the file that a path leads to. -/
def read (fs : FileSystem) (p : Path) : Except SystemError ByteArray := do
  let l ← fs.locate p
  match fs.get? l, fs.refusals.read l with
  | some _, some error => .error error
  | some (.file contents), none => .ok contents
  | some .directory, none => .error .isADirectory
  | none, _ => .error .notFound

/-- The names inside the directory that a path leads to. -/
def list (fs : FileSystem) (p : Path) : Except SystemError (List Bytes) := do
  let directory ← fs.enter (← fs.origin p) p.steps
  match fs.refusals.read directory with
  | some error => .error error
  | none => .ok ((fs.children directory).map FileName.bytes)

/-- What is put at a place, unless the system refuses it. -/
def putIfAllowed (fs : FileSystem) (l : Location) (e : Entry) : Except SystemError FileSystem :=
  match fs.refusals.write l with
  | some error => .error error
  | none => .ok (fs.put l e)

/-- The file system in which a path leads to a file with the given contents.  A path that ends in
no name leads to a directory. -/
def write (fs : FileSystem) (p : Path) (contents : ByteArray) : Except SystemError FileSystem := do
  let origin ← fs.origin p
  match p.steps.reverse with
  | [] => .error .notFound
  | last :: before =>
      let here ← fs.enter origin before.reverse
      match ← Step.ofBytes last with
      | .down name =>
          if fs.get? (name :: here) = some .directory then .error .isADirectory
          else fs.putIfAllowed (name :: here) (.file contents)
      | _ => .error .isADirectory

/-- The file system with a new directory.  Slashes at the end of the path say nothing more. -/
def makeDirectory (fs : FileSystem) (p : Path) : Except SystemError FileSystem := do
  let origin ← fs.origin p
  match p.steps.reverse.dropWhile (· == []) with
  | [] => .error .alreadyExists
  | last :: before =>
      let here ← fs.enter origin before.reverse
      match ← Step.ofBytes last with
      | .down name =>
          if (fs.get? (name :: here)).isSome then .error .alreadyExists
          else fs.putIfAllowed (name :: here) .directory
      | _ => .error .alreadyExists

/-- An operation that fails leaves the file system as it is. -/
def change (operation : FileSystem → Except SystemError FileSystem) :
    StateM FileSystem (Except SystemError Unit) :=
  fun fs =>
    match operation fs with
    | .ok fs' => (.ok (), fs')
    | .error error => (.error error, fs)

instance : MonadFiles (StateM FileSystem) where
  isDirectory p := fun fs => (fs.find? p == some .directory, fs)
  isFile p := fun fs => ((fs.find? p).any (· != .directory), fs)
  list p := fun fs => (fs.list p, fs)
  read p := fun fs => (fs.read p, fs)
  write p contents := change fun fs => fs.write p contents
  makeDirectory p := change fun fs => fs.makeDirectory p

end FileSystem

end JackSyntax
