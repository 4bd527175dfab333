/-
**Outputs have their own places.**

An output is named after its input and stands in the given directory or beside the input.  This is
said of its path alone, before any file is looked at: the last component is the stem of the input
with the suffix and the extension of outputs, and the others are those of the directory.  So the
path of an output tells the stem of its input, and, where no directory is given, the parent as well.
Source files of one directory have different stems, so that their outputs do not meet.

Main definitions:

* `IsInPlace` — a path is that of an output, named after its input and in the right directory;
* `TellsApart` — which inputs have the same output.

Main results:

* `isInPlace_outputPath`, `tellsApart_outputPath` — the two statements about one suffix;
* `output_paths_are_in_place` — **outputs stay in place and do not meet**.
-/

import JackSyntax.Proofs.Analysis.Writes
import JackSyntax.Proofs.Files.Components

set_option relaxedAutoImplicit false
set_option autoImplicit false

namespace JackSyntax

variable {input other : Path} {directory? : Option Path} {name name' : Bytes}
  {stem stem' suffix : String}

/-! ### The path of an output -/

/-- The path of an output is named after its input, and in the given directory or, where none is
given, beside the input. -/
structure IsInPlace (input : Path) (directory? : Option Path) (suffix : String) (output : Path) :
    Prop where
  /-- The file name is the stem of the input, the suffix and the extension of outputs. -/
  fileName : ∃ stem : String, input.stem? = some (bytesOf stem) ∧
    output.fileName? = some (bytesOf (stem ++ suffix ++ ".xml"))
  /-- The parent is the directory, component by component. -/
  parent : ∃ directory parent, directory?.or input.parent? = some directory ∧
    output.parent? = some parent ∧ parent.components = directory.components

/-- Which inputs have the same output, when the directory and the suffix are the same for both. -/
structure TellsApart (directory? : Option Path) (suffix : String) (input other : Path) : Prop where
  /-- Outputs are the same path exactly if the stems and, where no directory is given, the parents
  are the same. -/
  components_iff : (outputPath input directory? suffix).components =
      (outputPath other directory? suffix).components ↔
    input.stem? = other.stem? ∧ (directory? = none →
      input.parent?.map Path.components = other.parent?.map Path.components)
  /-- Their paths have the same bytes exactly if, in addition, those of the parents have. -/
  bytes_iff : outputPath input directory? suffix = outputPath other directory? suffix ↔
    input.stem? = other.stem? ∧ (directory? = none → input.parent? = other.parent?)
  /-- Different source files of one directory have different outputs. -/
  sources : input.isSource = true → other.isSource = true →
    input.parent?.map Path.components = other.parent?.map Path.components →
    input.components ≠ other.components →
    (outputPath input directory? suffix).components ≠
      (outputPath other directory? suffix).components

/-- A path with a file name that is a text is named after its stem. -/
theorem outputPath_of_isText (named : input.fileName? = some name)
    (stem? : input.stem? = some (bytesOf stem)) (directory? : Option Path) (suffix : String) :
    outputPath input directory? suffix =
      (FileSystem.outputHome input directory?).join (outputName stem suffix) := by
  rw [FileSystem.outputPath_eq_join named, Path.shownStem, stem?, Option.getD_some, lossy_bytesOf]

theorem isInPlace_outputPath (named : input.fileName? = some name) (utf8 : IsText input.bytes)
    (noSlash : '/' ∉ suffix.toList) :
    IsInPlace input directory? suffix (outputPath input directory? suffix) := by
  obtain ⟨stem, stem?, clean⟩ := Path.exists_stem named utf8
  have plain := isPlain_outputName_of_slash_not_mem clean noSlash
  rw [outputPath_of_isText named stem?]
  have joined := Path.fileName?_join (FileSystem.outputHome input directory?) plain
  refine ⟨⟨stem, stem?, by rw [joined, outputName_eq]⟩, ?_⟩
  refine ⟨FileSystem.outputHome input directory?, _, ?_, (Path.components_home joined).1,
    Path.components_home_join _ plain⟩
  cases directory? with
  | some directory => rfl
  | none => exact (Path.components_home named).1

/-- Outputs with the same suffix have the same name only if the stems are the same. -/
theorem outputName_left_inj :
    outputName stem suffix = outputName stem' suffix ↔ stem = stem' := by
  rw [outputName_inj, ← String.toList_inj, String.toList_append, String.toList_append,
    List.append_left_inj, String.toList_inj]

theorem tellsApart_outputPath (named : input.fileName? = some name) (utf8 : IsText input.bytes)
    (named' : other.fileName? = some name') (utf8' : IsText other.bytes)
    (noSlash : '/' ∉ suffix.toList) : TellsApart directory? suffix input other := by
  obtain ⟨stem, stem?, clean⟩ := Path.exists_stem named utf8
  obtain ⟨stem', stem?', clean'⟩ := Path.exists_stem named' utf8'
  have plain := isPlain_outputName_of_slash_not_mem clean noSlash
  have plain' := isPlain_outputName_of_slash_not_mem clean' noSlash
  have parent := (Path.components_home named).1
  have parent' := (Path.components_home named').1
  have path := outputPath_of_isText named stem? directory? suffix
  have path' := outputPath_of_isText named' stem?' directory? suffix
  have components_iff : (outputPath input directory? suffix).components =
      (outputPath other directory? suffix).components ↔
      input.stem? = other.stem? ∧ (directory? = none →
        input.parent?.map Path.components = other.parent?.map Path.components) := by
    rw [path, path', Path.components_join _ plain, Path.components_join _ plain', stem?, stem?',
      parent, parent']
    cases directory? <;> simp [FileSystem.outputHome, outputName_left_inj, bytesOf_inj, and_comm]
  refine ⟨components_iff, ?_, fun source source' homes differ same => differ ?_⟩
  · rw [path, path', stem?, stem?', parent, parent', Option.some.injEq, Option.some.injEq]
    cases directory? with
    | some directory =>
        rw [bytesOf_inj]
        refine ⟨fun same => ⟨?_, nofun⟩, fun both => by rw [both.1]; rfl⟩
        exact outputName_left_inj.1 (Path.name_eq_of_join_eq plain plain' same)
    | none =>
        have apart := Path.join_inj plain plain' (Path.isTrimmed_home named)
          (Path.isTrimmed_home named')
        rw [outputName_left_inj] at apart
        rw [bytesOf_inj]
        exact apart.trans ⟨fun both => ⟨both.2, fun _ => both.1⟩, fun both => ⟨both.2 rfl, both.1⟩⟩
  · -- a source file is named after its stem
    obtain ⟨cut, -, cut?, source⟩ := Path.isSource_iff.1 source
    obtain ⟨cut', -, cut?', source'⟩ := Path.isSource_iff.1 source'
    obtain rfl : cut = cut' :=
      Option.some.inj (cut?.symm.trans ((components_iff.1 same).1.trans cut?'))
    rw [parent, parent', Option.map_some, Option.map_some, Option.some.injEq] at homes
    exact (Path.components_eq_iff_of_fileName source source').2 ⟨homes, rfl⟩

/-- **Outputs stay in place and do not meet.**  The output of an input with a file name is named
after the stem of the input and stands in the given directory, or beside the input; two inputs have
the same output exactly if their stems are the same and, where no directory is given, their parents;
and so two source files of one directory never have.  The paths of inputs are texts here. -/
theorem output_paths_are_in_place (directory? : Option Path) (suffix : String)
    (noSlash : '/' ∉ suffix.toList) (input : Path) (utf8 : IsText input.bytes)
    (named : input.fileName?.isSome) :
    IsInPlace input directory? suffix (outputPath input directory? suffix) ∧
      ∀ other : Path, IsText other.bytes → other.fileName?.isSome →
        TellsApart directory? suffix input other := by
  obtain ⟨name, named⟩ := Option.isSome_iff_exists.1 named
  refine ⟨isInPlace_outputPath named utf8 noSlash, fun other utf8' named' => ?_⟩
  obtain ⟨name', named'⟩ := Option.isSome_iff_exists.1 named'
  exact tellsApart_outputPath named utf8 named' utf8' noSlash

/-- Idle steps, a name with two dots, and a name that is an extension alone. -/
theorem listing_beside_input_with_idle_steps :
    '/' ∉ "T".toList ∧ IsText "d//./A.b.jack/." ∧ (⟨"d//./A.b.jack/."⟩ : Path).fileName?.isSome ∧
      IsText "./.jack" ∧ (⟨"./.jack"⟩ : Path).fileName?.isSome ∧
      IsInPlace ⟨"d//./A.b.jack/."⟩ none "T" ⟨"d/A.bT.xml"⟩ ∧
      TellsApart none "T" ⟨"d//./A.b.jack/."⟩ ⟨"./.jack"⟩ := by
  have noSlash : '/' ∉ "T".toList := by decide
  have utf8 := isText_bytesOf "d//./A.b.jack/."
  have named : (⟨"d//./A.b.jack/."⟩ : Path).fileName?.isSome := by decide +kernel
  have utf8' := isText_bytesOf "./.jack"
  have named' : (⟨"./.jack"⟩ : Path).fileName?.isSome := by decide +kernel
  have path : outputPath ⟨"d//./A.b.jack/."⟩ none "T" = ⟨"d/A.bT.xml"⟩ := by decide +kernel
  obtain ⟨place, apart⟩ :=
    output_paths_are_in_place none "T" noSlash ⟨"d//./A.b.jack/."⟩ utf8 named
  exact ⟨noSlash, utf8, named, utf8', named', path ▸ place, apart _ utf8' named'⟩

end JackSyntax
