/-
**Paths.**

A path is a sequence of bytes, and its steps are separated by slashes.  It keeps its bytes, since
they are what diagnostics show: `d//A.jack` and `d/A.jack` lead to the same place and are different
paths.  An empty step and the step `.` lead nowhere and are called idle; the step `..` leads to the
enclosing directory.  A path begins at the root if it begins with a slash.

Main definitions:

* `Path` — a path, `Path.text` — the text as which it is shown, and `Path.steps` — its steps;
* `Path.fileName?`, `Path.stem?`, `Path.extension?` — the last step and its two parts;
* `Path.parent?`, `Path.ancestors` — what remains without the last step, once and repeatedly;
* `Path.join`, `Path.withFileName` — a name inside a directory, and beside a file.
-/

import JackSyntax.Text.Bytes

set_option relaxedAutoImplicit false
set_option autoImplicit false

namespace JackSyntax

/-- A path of the file system. -/
structure Path where
  bytes : Bytes
  deriving DecidableEq

namespace Path

/-- The text as which a path is shown. -/
def text (p : Path) : String := lossy p.bytes

/-- The steps of a path, from the first to the last. -/
def steps (p : Path) : List Bytes := p.bytes.splitOn slash

/-- Whether bytes begin with a slash. -/
def beginsAtRoot (bytes : Bytes) : Bool := bytes.head? == some slash

/-- Whether a path begins at the root. -/
def isAbsolute (p : Path) : Bool := beginsAtRoot p.bytes

/-- Whether a step leads nowhere. -/
def isIdle (step : Bytes) : Bool := step == [] || step == [dot]

/-- The beginning of a path that is not a step to be left out: the root, or a dot in front. -/
def anchor (bytes : Bytes) : Bytes :=
  if beginsAtRoot bytes then [slash]
  else if bytes = [dot] ∨ [dot, slash] <+: bytes then [dot]
  else []

/-- The steps of a path behind its anchor, latest first and without idle steps at the end. -/
def trail (p : Path) : List Bytes :=
  (((p.bytes.drop (anchor p.bytes).length).splitOn slash).reverse).dropWhile isIdle

/-- The path of an anchor and a trail. -/
def ofTrail (anchor : Bytes) (trail : List Bytes) : Path :=
  ⟨anchor ++ [slash].intercalate (trail.dropWhile isIdle).reverse⟩

/-- The last step of a path, if it is a name. -/
def fileName? (p : Path) : Option Bytes :=
  match p.trail with
  | last :: _ => if last = [dot, dot] then none else some last
  | [] => none

/-- The proper ancestors along a trail, nearest first. -/
def ancestorsAlong (anchor : Bytes) : List Bytes → List Path
  | [] => if anchor = [dot] then [⟨[]⟩] else []
  | step :: before =>
      if isIdle step then ancestorsAlong anchor before
      else ofTrail anchor before :: ancestorsAlong anchor before

/-- The paths that remain when steps are left out at the end, the longest first. -/
def ancestors (p : Path) : List Path := ancestorsAlong (anchor p.bytes) p.trail

/-- A path without its last step. -/
def parent? (p : Path) : Option Path := p.ancestors.head?

/-- A name cut at its last dot.  A name without a dot, or whose only dot comes first, is all
stem. -/
def splitExtension (name : Bytes) : Bytes × Option Bytes :=
  match name.reverse.dropWhile (· != dot) with
  | _ :: byte :: before =>
      ((byte :: before).reverse, some (name.reverse.takeWhile (· != dot)).reverse)
  | _ => (name, none)

/-- The file name without its extension. -/
def stem? (p : Path) : Option Bytes := p.fileName?.map fun name => (splitExtension name).1

/-- The extension of the file name, if it has one. -/
def extension? (p : Path) : Option Bytes := p.fileName?.bind fun name => (splitExtension name).2

/-- A path inside a directory.  A path that begins at the root is not inside any. -/
def join (directory : Path) (name : Bytes) : Path :=
  if beginsAtRoot name then ⟨name⟩
  else if directory.bytes.getLast?.all (· == slash) then ⟨directory.bytes ++ name⟩
  else ⟨directory.bytes ++ slash :: name⟩

/-- The path with another name in place of its file name.  If it has none, the name goes inside. -/
def withFileName (p : Path) (name : Bytes) : Path :=
  match p.fileName?, p.parent? with
  | some _, some directory => directory.join name
  | _, _ => p.join name

end Path

end JackSyntax
