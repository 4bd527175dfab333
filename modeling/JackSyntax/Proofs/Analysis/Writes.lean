/-
**What the analysis of an input reads and writes.**

The name of an output ends with the extension of outputs, so no output is ever an input; and
outputs are written in directories that are there before the first of them.  So what an analysis
comes to, and which files it writes, can be told from the file system before any output is written,
and is the same after others have been.

Main definitions:

* `outputName` — the name of an output;
* `FileSystem.IsOutput`, `FileSystem.HasWritten` — the places of outputs, and a file system in which
  only outputs have been written;
* `FileSystem.compiled`, `FileSystem.plan`, `FileSystem.analysis` — what compiling an input, writing
  outputs, and both come to.

Main results:

* `FileSystem.outputPath_eq_join` — an output is a name inside a directory;
* `FileSystem.compileFile_apply` — an input is compiled without any change;
* `FileSystem.HasWritten.target_join` — outputs do not get in the way of each other;
* `FileSystem.analyzeFile_apply` — **the analysis of an input after others**.
-/

import JackSyntax.Analysis.Outputs
import JackSyntax.Proofs.Analysis.Inputs

set_option relaxedAutoImplicit false
set_option autoImplicit false

namespace JackSyntax

/-! ### Names of outputs -/

/-- The name of an output: a stem as it is shown, a suffix and the extension of outputs. -/
def outputName (shown suffix : String) : Bytes := bytesOf (shown ++ suffix ++ "." ++ outputExtension)

theorem outputName_eq (shown suffix : String) :
    outputName shown suffix = bytesOf (shown ++ suffix ++ ".xml") :=
  congrArg bytesOf String.append_assoc

theorem outputName_inj {shown suffix shown' suffix' : String} :
    outputName shown suffix = outputName shown' suffix' ↔ shown ++ suffix = shown' ++ suffix' := by
  rw [outputName, outputName, bytesOf_inj, ← String.toList_inj, ← String.toList_inj]
  simp only [String.toList_append, List.append_left_inj]

/-- No output has the name of a source file. -/
theorem outputName_ne_sourceName (shown suffix : String) (stem : Bytes) :
    outputName shown suffix ≠ sourceName stem := by
  intro same
  have last := congrArg List.getLast? same
  have extension : bytesOf outputExtension = [0x78, 0x6d, 0x6c] := by decide
  have extension' : bytesOf sourceExtension = [0x6a, 0x61, 0x63, 0x6b] := by decide
  rw [outputName, bytesOf_append, extension, sourceName, extension'] at last
  simp at last

/-- The name of an output is one step if its stem and its suffix hold no slash. -/
theorem isPlain_outputName_of_slash_not_mem {shown suffix : String} (clean : '/' ∉ shown.toList)
    (noSlash : '/' ∉ suffix.toList) : IsPlain (outputName shown suffix) := by
  have long : 4 ≤ (outputName shown suffix).length := by
    have ending : (bytesOf ".xml").length = 4 := by decide
    rw [outputName_eq, bytesOf_append, List.length_append, ending]
    omega
  refine ⟨fun inside => ?_, ?_, ?_⟩
  · have shownSlash : '/' ∈ (shown ++ suffix ++ ".xml").toList :=
      ofUInt8_mem_of_mem_bytesOf (by decide) (outputName_eq shown suffix ▸ inside)
    simp only [String.toList_append, List.mem_append] at shownSlash
    rcases shownSlash with (inside | inside) | inside
    · exact clean inside
    · exact noSlash inside
    · exact absurd inside (by decide)
  · rw [Bool.eq_false_iff]
    intro idle
    rcases Path.isIdle_iff.1 idle with short | short
    · exact absurd (short ▸ long) (by decide)
    · exact absurd (short ▸ long) (by decide)
  · exact fun short => absurd (short ▸ long) (by decide)

/-- The name of an output is one step if the name of its source file is. -/
theorem isPlain_outputName {stem : Bytes} (plain : IsPlain (sourceName stem)) {suffix : String}
    (noSlash : '/' ∉ suffix.toList) : IsPlain (outputName (lossy stem) suffix) := by
  have clean := plain.slash
  rw [sourceName, List.mem_append, not_or] at clean
  exact isPlain_outputName_of_slash_not_mem (slash_not_mem_lossy clean.1) noSlash

/-! ### Outputs of an input -/

/-- A text that an input gives, and the suffix under which it is written. -/
def Compiled.Gives (compiled : Compiled) (suffix text : String) : Prop :=
  suffix = "" ∧ text = compiled.tree ∨ suffix = "T" ∧ compiled.tokens = some text

/-- There is one text for each suffix. -/
theorem Compiled.Gives.unique {compiled : Compiled} {suffix text text' : String}
    (given : compiled.Gives suffix text) (given' : compiled.Gives suffix text') : text = text' := by
  obtain ⟨rfl, rfl⟩ | ⟨rfl, listed⟩ := given
  · obtain ⟨-, rfl⟩ | ⟨impossible, -⟩ := given'
    · rfl
    · exact absurd impossible (by decide)
  · obtain ⟨impossible, -⟩ | ⟨-, listed'⟩ := given'
    · exact absurd impossible (by decide)
    · exact Option.some.inj (listed.symm.trans listed')

/-- The outputs of an input are its texts, each at its path. -/
theorem Compiled.mem_outputs_iff {compiled : Compiled} {input : Path}
    {directory? : Option Path} {output : Path × String} :
    output ∈ compiled.outputs input directory? ↔
      ∃ suffix, compiled.Gives suffix output.2 ∧ output.1 = outputPath input directory? suffix := by
  obtain ⟨path, text⟩ := output
  simp only [Compiled.outputs, List.mem_cons, Option.mem_toList, Option.map_eq_some_iff,
    Prod.mk.injEq, Compiled.Gives]
  constructor
  · rintro (⟨rfl, rfl⟩ | ⟨listing, listed, rfl, rfl⟩)
    · exact ⟨"", Or.inl ⟨rfl, rfl⟩, rfl⟩
    · exact ⟨"T", Or.inr ⟨rfl, listed⟩, rfl⟩
  · rintro ⟨suffix, ⟨rfl, rfl⟩ | ⟨rfl, listed⟩, rfl⟩
    · exact Or.inl ⟨rfl, rfl⟩
    · exact Or.inr ⟨text, listed, rfl, rfl⟩

/-- The names of the outputs of an input are steps if the name of its source file is. -/
theorem Compiled.Gives.isPlain {compiled : Compiled} {stem : Bytes} {suffix text : String}
    (given : compiled.Gives suffix text) (plain : IsPlain (sourceName stem)) :
    IsPlain (outputName (lossy stem) suffix) := by
  obtain ⟨rfl, -⟩ | ⟨rfl, -⟩ := given <;> exact isPlain_outputName plain (by decide)

namespace FileSystem

variable {fs fs' s : FileSystem} {input directory : Path} {directory? : Option Path}
  {stem name : Bytes} {suffix : String} {d D l : Location}

/-- Where the outputs of an input go. -/
def outputHome (input : Path) (directory? : Option Path) : Path := directory?.getD input.home

/-- An output is a name inside a directory. -/
theorem outputPath_eq_join (named : input.fileName? = some name) (directory? : Option Path)
    (suffix : String) :
    outputPath input directory? suffix =
      (outputHome input directory?).join (outputName input.shownStem suffix) := by
  unfold outputPath
  cases directory? with
  | some directory => rfl
  | none => exact Path.withFileName_eq named _

theorem HasSource.shownStem (h : fs.HasSource input stem d) : input.shownStem = lossy stem := by
  rw [Path.shownStem, h.stem?]
  rfl

theorem HasSource.outputPath_eq (h : fs.HasSource input stem d) (directory? : Option Path)
    (suffix : String) :
    outputPath input directory? suffix =
      (outputHome input directory?).join (outputName (lossy stem) suffix) := by
  rw [outputPath_eq_join h.fileName?, h.shownStem]

theorem HasSource.isPlain (h : fs.HasSource input stem d) : IsPlain (sourceName stem) := by
  obtain ⟨n, -, name, -⟩ := h.found
  exact name ▸ n.isPlain

/-! ### Places of outputs -/

/-- A place whose name has the extension of outputs. -/
def IsOutput (l : Location) : Prop :=
  ∃ (n : FileName) (d : Location) (shown suffix : String),
    l = n :: d ∧ n.bytes = outputName shown suffix

/-- Only outputs have been written. -/
abbrev HasWritten (fs s : FileSystem) : Prop := fs.ChangesBy (IsWritten IsOutput) s

theorem HasWritten.keepsDirectories (h : fs.HasWritten s) : fs.KeepsDirectories s :=
  ChangesBy.keepsDirectories h not_isWritten_directory

/-- Source files are what they were. -/
theorem HasWritten.get?_source (h : fs.HasWritten s) {n : FileName}
    (name : n.bytes = sourceName stem) (d : Location) : s.get? (n :: d) = fs.get? (n :: d) := by
  refine h.get?_eq fun e written => ?_
  obtain ⟨⟨n', d', shown, suffix, same, output⟩, -⟩ := written
  obtain ⟨rfl, rfl⟩ := List.cons_eq_cons.1 same
  exact outputName_ne_sourceName shown suffix stem (output.symm.trans name)

/-- Source files are read as before. -/
theorem HasWritten.read (h : fs.HasWritten s) (source : fs.HasSource input stem d) :
    s.read input = fs.read input := by
  obtain ⟨n, contents, name, located, found⟩ := source.found
  exact read_congr located (locate_mono h.keepsDirectories located) (h.get?_source name d)
    h.refusals

/-- Outputs do not get in the way of each other. -/
theorem HasWritten.target_join (h : fs.HasWritten s) (ready : fs.directoryAt directory = .ok D)
    (plain : IsPlain name) : s.target (directory.join name) = fs.target (directory.join name) := by
  have same (n : FileName) : s.permit (n :: D) = fs.permit (n :: D) :=
    permit_congr (h.get?_eq_directory_iff _) h.refusals
  rw [FileSystem.target_join _ _ plain, FileSystem.target_join _ _ plain,
    origin_congr h.workingDirectory, directoryAt_mono h.keepsDirectories ready, ready]
  simp only [bind, Except.bind, same]

/-- The place of an output. -/
theorem target_join_eq_ok (ready : fs.directoryAt directory = .ok D) (plain : IsPlain name)
    (h : fs.target (directory.join name) = .ok l) :
    ∃ n : FileName, n.bytes = name ∧ l = n :: D ∧ fs.get? l ≠ some .directory ∧
      fs.locate (directory.join name) = .ok l := by
  rw [FileSystem.target_join _ _ plain] at h
  obtain ⟨_, origin, inner⟩ := bind_eq_ok_iff.1 h
  obtain ⟨here, entered, placed⟩ := bind_eq_ok_iff.1 inner
  obtain rfl := Except.ok.inj (ready.symm.trans entered)
  cases named : FileName.ofBytes? name with
  | none =>
      rw [named] at placed
      cases placed
  | some n =>
      rw [named] at placed
      obtain rfl := FileName.ofBytes?_eq_some named
      obtain ⟨rfl, free, -⟩ := permit_eq_ok_iff.1 placed
      refine ⟨n, rfl, rfl, free, locate_join ?_ ready⟩
      cases same : fs.origin (directory.join n.bytes) with
      | error error =>
          rw [same] at origin
          cases origin
      | ok o => rw [origin_eq_start same]

/-! ### Compiling -/

/-- What compiling an input comes to. -/
def compiled (fs : FileSystem) (withTokens : Bool) (input : Path) : Except AnalysisError Compiled :=
  match fs.read input with
  | .error error => .error (.system input error)
  | .ok bytes =>
      match String.fromUTF8? bytes with
      | none => .error (.notText input)
      | some source => (compile withTokens source).mapError (.compile input)

/-- An input is compiled without any change. -/
theorem compileFile_apply (withTokens : Bool) (input : Path) (fs : FileSystem) :
    compileFile (m := StateM FileSystem) withTokens input fs =
      (fs.compiled withTokens input, fs) := by
  rw [compileFile, bind_apply, read_apply, compiled]
  cases fs.read input with
  | error error => rfl
  | ok bytes =>
      dsimp only
      cases String.fromUTF8? bytes <;> rfl

/-- A source file is compiled as before where directories are made. -/
theorem compiled_of_isMade {places : Location → Prop} (made : fs.ChangesBy (IsMade places) fs')
    (source : fs.isInput input = true) (withTokens : Bool) :
    fs'.compiled withTokens input = fs.compiled withTokens input := by
  obtain ⟨⟨contents, found⟩, -⟩ := isInput_iff.1 source
  rw [FileSystem.compiled, FileSystem.compiled, read_of_isMade made found]

theorem HasWritten.compiled (h : fs.HasWritten s) (source : fs.HasSource input stem d)
    (withTokens : Bool) : s.compiled withTokens input = fs.compiled withTokens input := by
  rw [FileSystem.compiled, FileSystem.compiled, h.read source]

/-- What is compiled is a source that could be read. -/
theorem exists_compile_eq_ok {withTokens : Bool} {compiled : Compiled}
    (h : fs.compiled withTokens input = .ok compiled) :
    ∃ source, compile withTokens source = .ok compiled := by
  unfold FileSystem.compiled at h
  split at h
  · cases h
  · split at h
    · cases h
    · rename_i source decoded
      refine ⟨source, ?_⟩
      cases result : compile withTokens source with
      | error error =>
          rw [result] at h
          cases h
      | ok texts =>
          rw [result] at h
          rw [Except.ok.inj h]

/-- Tokens are listed on request only. -/
theorem isSome_tokens_of_compiled {withTokens : Bool} {compiled : Compiled}
    (h : fs.compiled withTokens input = .ok compiled) : compiled.tokens.isSome = withTokens := by
  obtain ⟨source, h⟩ := exists_compile_eq_ok h
  obtain ⟨tree, -, h⟩ := bind_eq_ok_iff.1 h
  cases withTokens with
  | false =>
      obtain rfl := Except.ok.inj h
      rfl
  | true =>
      rw [if_pos rfl] at h
      split at h
      · obtain rfl := Except.ok.inj h
        rfl
      · cases h

theorem withTokens_of_listed {withTokens : Bool} {compiled : Compiled} {listing : String}
    (h : fs.compiled withTokens input = .ok compiled) (listed : compiled.tokens = some listing) :
    withTokens = true := by
  rw [← isSome_tokens_of_compiled h, listed]
  rfl

/-! ### Writing outputs -/

/-- What writing outputs comes to, and the files that are written before one cannot be. -/
def plan (fs : FileSystem) :
    List (Path × String) → Except AnalysisError (List Path) × List (Location × ByteArray)
  | [] => (.ok [], [])
  | (path, text) :: outputs =>
      match fs.target path with
      | .error error => (.error (.system path error), [])
      | .ok l =>
          ((fs.plan outputs).1.map (path :: ·), (l, text.toUTF8) :: (fs.plan outputs).2)

/-- Every file that is written is an output at its place. -/
theorem exists_of_mem_plan {outputs : List (Path × String)} {file : Location × ByteArray}
    (h : file ∈ (fs.plan outputs).2) :
    ∃ output ∈ outputs, fs.target output.1 = .ok file.1 ∧ file.2 = output.2.toUTF8 := by
  induction outputs with
  | nil => cases h
  | cons output outputs ih =>
      rw [plan] at h
      split at h
      · cases h
      · rename_i l placed
        rcases List.mem_cons.1 h with rfl | h
        · exact ⟨output, List.mem_cons_self, placed, rfl⟩
        · obtain ⟨output', inside, both⟩ := ih h
          exact ⟨output', List.mem_cons_of_mem _ inside, both⟩

/-- If outputs are written without an error, each of them is. -/
theorem exists_mem_plan_of_ok {outputs : List (Path × String)} {paths : List Path}
    (h : (fs.plan outputs).1 = .ok paths) {output : Path × String} (inside : output ∈ outputs) :
    ∃ l, fs.target output.1 = .ok l ∧ (l, output.2.toUTF8) ∈ (fs.plan outputs).2 := by
  induction outputs generalizing paths with
  | nil => cases inside
  | cons first outputs ih =>
      obtain ⟨path, text⟩ := first
      rw [plan] at h ⊢
      cases placed : fs.target path with
      | error error =>
          rw [placed] at h
          cases h
      | ok l =>
          rw [placed] at h
          dsimp only at h ⊢
          rcases List.mem_cons.1 inside with rfl | inside
          · exact ⟨l, placed, List.mem_cons_self⟩
          · cases others : (fs.plan outputs).1 with
            | error error =>
                rw [others] at h
                cases h
            | ok paths' =>
                obtain ⟨l', placed', written⟩ := ih others inside
                exact ⟨l', placed', List.mem_cons_of_mem _ written⟩

/-- Outputs in a directory that is there. -/
def AreOutputsIn (directory : Path) (outputs : List (Path × String)) : Prop :=
  ∀ output ∈ outputs, ∃ shown suffix, IsPlain (outputName shown suffix) ∧
    output.1 = directory.join (outputName shown suffix)

theorem isOutput_of_mem_plan {outputs : List (Path × String)}
    (named : AreOutputsIn directory outputs) (ready : fs.directoryAt directory = .ok D)
    {file : Location × ByteArray}
    (h : file ∈ (fs.plan outputs).2) : IsOutput file.1 ∧ fs.get? file.1 ≠ some .directory := by
  obtain ⟨output, inside, placed, -⟩ := exists_of_mem_plan h
  obtain ⟨shown, suffix, plain, same⟩ := named output inside
  rw [same] at placed
  obtain ⟨n, name, place, free, -⟩ := target_join_eq_ok ready plain placed
  exact ⟨⟨n, D, shown, suffix, place, name⟩, free⟩

/-- Where only outputs are written, only outputs have been written. -/
theorem HasWritten.putFiles (h : fs.HasWritten s) {files : List (Location × ByteArray)}
    (outputs : ∀ file ∈ files, IsOutput file.1 ∧ fs.get? file.1 ≠ some .directory) :
    fs.HasWritten (s.putFiles files) := by
  have free : ∀ file ∈ files, s.get? file.1 ≠ some .directory := fun file inside found =>
    (outputs file inside).2 ((h.get?_eq_directory_iff _).1 found)
  refine h.trans isWritten_trans ((changesBy_putFiles free).imp ?_)
  rintro l before after ⟨⟨contents, inside⟩, others⟩
  exact ⟨(outputs _ inside).1, others⟩

/-- An output goes to the same place after others have been written. -/
theorem AreOutputsIn.target_eq {outputs : List (Path × String)} {path : Path} {text : String}
    (named : AreOutputsIn directory outputs) (ready : fs.directoryAt directory = .ok D)
    (h : fs.HasWritten s) (inside : (path, text) ∈ outputs) : s.target path = fs.target path := by
  obtain ⟨shown, suffix, plain, same⟩ := named (path, text) inside
  obtain rfl : path = _ := same
  exact h.target_join ready plain

/-- Where an output is written, only outputs have been written. -/
theorem AreOutputsIn.hasWritten_put {outputs : List (Path × String)} {path : Path} {text : String}
    (named : AreOutputsIn directory outputs) (ready : fs.directoryAt directory = .ok D)
    (h : fs.HasWritten s) (inside : (path, text) ∈ outputs) (placed : fs.target path = .ok l) :
    fs.HasWritten (s.put l (.file text.toUTF8)) := by
  have single : AreOutputsIn directory [(path, text)] := fun other alone =>
    named other (List.mem_singleton.1 alone ▸ inside)
  have planned : (fs.plan [(path, text)]).2 = [(l, text.toUTF8)] := by simp only [plan, placed]
  have written := h.putFiles fun file => isOutput_of_mem_plan single ready
  rwa [planned, putFiles_cons, putFiles_nil] at written

/-- Outputs are written as planned, also after others. -/
theorem writeOutputs_apply {outputs : List (Path × String)} (named : AreOutputsIn directory outputs)
    (ready : fs.directoryAt directory = .ok D) (h : fs.HasWritten s) :
    writeOutputs (m := StateM FileSystem) outputs s =
      ((fs.plan outputs).1, s.putFiles (fs.plan outputs).2) := by
  induction outputs generalizing s with
  | nil => rfl
  | cons output outputs ih =>
      obtain ⟨path, text⟩ := output
      have named' : AreOutputsIn directory outputs := fun other inside =>
        named other (List.mem_cons_of_mem _ inside)
      have placed : s.target path = fs.target path := named.target_eq ready h List.mem_cons_self
      rw [writeOutputs, bind_apply, write_apply, placed, plan]
      cases first : fs.target path with
      | error error => rfl
      | ok l =>
          have next := named.hasWritten_put ready h List.mem_cons_self first
          dsimp only
          rw [bind_apply, ih named' next]
          rfl

/-! ### The analysis of an input -/

/-- What the analysis of an input comes to, and the files that it writes. -/
def analysis (fs : FileSystem) (withTokens : Bool) (directory? : Option Path) (input : Path) :
    Except AnalysisError (List Path) × List (Location × ByteArray) :=
  match fs.compiled withTokens input with
  | .error error => (.error error, [])
  | .ok compiled => fs.plan (compiled.outputs input directory?)

/-- The outputs of a source file. -/
theorem HasSource.areOutputsIn (h : fs.HasSource input stem d) (directory? : Option Path)
    (compiled : Compiled) :
    AreOutputsIn (outputHome input directory?) (compiled.outputs input directory?) := by
  intro output inside
  obtain ⟨suffix, given, path⟩ := Compiled.mem_outputs_iff.1 inside
  exact ⟨lossy stem, suffix, given.isPlain h.isPlain, path.trans (h.outputPath_eq _ _)⟩

/-- A file that the analysis of an input writes holds a text of the input, and is where the path of
this output leads. -/
theorem HasSource.exists_of_mem_analysis (h : fs.HasSource input stem d)
    (ready : fs.directoryAt (outputHome input directory?) = .ok D) {withTokens : Bool}
    {file : Location × ByteArray} (inside : file ∈ (fs.analysis withTokens directory? input).2) :
    ∃ compiled suffix text, fs.compiled withTokens input = .ok compiled ∧
      compiled.Gives suffix text ∧ file.2 = text.toUTF8 ∧
      fs.locate (outputPath input directory? suffix) = .ok file.1 ∧
      fs.get? file.1 ≠ some .directory ∧
      ∃ n : FileName, n.bytes = outputName (lossy stem) suffix ∧ file.1 = n :: D := by
  unfold analysis at inside
  split at inside
  · cases inside
  · rename_i compiled success
    obtain ⟨output, listed, placed, contents⟩ := exists_of_mem_plan inside
    obtain ⟨suffix, given, path⟩ := Compiled.mem_outputs_iff.1 listed
    rw [path, h.outputPath_eq] at placed
    obtain ⟨n, name, place, free, located⟩ :=
      target_join_eq_ok ready (given.isPlain h.isPlain) placed
    refine ⟨compiled, suffix, output.2, success, given, contents, ?_, free, n, name, place⟩
    rw [h.outputPath_eq, located]

/-- The analysis of an input writes outputs. -/
theorem HasSource.isOutput_of_mem_analysis (h : fs.HasSource input stem d)
    (ready : fs.directoryAt (outputHome input directory?) = .ok D) {withTokens : Bool}
    {file : Location × ByteArray} (inside : file ∈ (fs.analysis withTokens directory? input).2) :
    IsOutput file.1 ∧ fs.get? file.1 ≠ some .directory := by
  obtain ⟨compiled, suffix, text, -, -, -, -, free, n, name, place⟩ :=
    h.exists_of_mem_analysis ready inside
  exact ⟨⟨n, D, lossy stem, suffix, place, name⟩, free⟩

/-- **The analysis of an input comes to the same after others, and writes the same files.** -/
theorem HasSource.analyzeFile_apply (source : fs.HasSource input stem d)
    (ready : fs.directoryAt (outputHome input directory?) = .ok D) (h : fs.HasWritten s)
    (withTokens : Bool) :
    analyzeFile (m := StateM FileSystem) withTokens directory? input s =
      ((fs.analysis withTokens directory? input).1,
        s.putFiles (fs.analysis withTokens directory? input).2) := by
  rw [analyzeFile, bind_apply, compileFile_apply, h.compiled source, analysis]
  cases fs.compiled withTokens input with
  | error error => rfl
  | ok compiled => exact writeOutputs_apply (source.areOutputsIn directory? compiled) ready h

end FileSystem

end JackSyntax
