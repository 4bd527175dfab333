/-
**What a run may change.**

A run makes the directory of the outputs, with those around it that are missing, and it writes
outputs.  Nothing else is changed, whatever the file system and the command line.  In particular no
source file is made or altered, since no output has the name of one, and an input that cannot be
compiled leaves no trace, since nothing is written before both of its texts are there.

What the standard output takes or refuses makes no difference to the files.

Main definitions:

* `IsMadeFor` — a directory that was missing for the outputs;
* `IsOutputOf` — an output of an input that could be compiled;
* `IsConfined` — what a run may change.

Main results:

* `execute_isConfined` — **what a command line may change**.
-/

import JackSyntax.Proofs.CommandLine.Outcomes

set_option relaxedAutoImplicit false
set_option autoImplicit false

namespace JackSyntax.CommandLine

open FileSystem

variable {fs fs₁ after : FileSystem} {s : Machine} {options : Options} {inputs : List Path}
  {input : Path} {l : Location}

/-! ### What is allowed -/

/-- A directory for the outputs, or one around it, that was missing and has been made. -/
structure IsMadeFor (options : Options) (fs after : FileSystem) (l : Location) : Prop where
  missing : fs.get? l = none
  made : after.get? l = some .directory
  needed : ∃ directory, options.destination.directory? = some directory ∧
    ∃ p ∈ directory :: directory.ancestors, after.locate p = .ok l

/-- Where the outputs of an input go: the directory that is given, or the one of the input. -/
def IsOutputDirectory (options : Options) (fs after : FileSystem) (input : Path) (D : Location) :
    Prop :=
  match options.destination.directory? with
  | some directory => after.locate directory = .ok D
  | none => ∃ n, fs.locate input = .ok (n :: D)

/-- An output of an input that could be compiled: the tree under the stem of the input or, on
request, the token listing under the stem with a `T` behind it.  A stem that is a text stands in the
name of the output as it is, and any other as it is shown. -/
structure IsOutputOf (options : Options) (fs after : FileSystem) (input : Path) (l : Location) :
    Prop where
  toFiles : options.destination ≠ .standardOutput
  free : fs.get? l ≠ some .directory
  named : ∃ compiled stem suffix text,
    compileFile (m := StateM FileSystem) options.withTokens input fs = (.ok compiled, fs) ∧
      input.stem? = some stem ∧
      (suffix = "" ∧ text = compiled.tree ∨
        options.withTokens = true ∧ suffix = "T" ∧ compiled.tokens = some text) ∧
      after.get? l = some (.file text.toUTF8) ∧
      ∃ (n : FileName) (D : Location), l = n :: D ∧
        n.bytes = bytesOf (lossy stem ++ suffix ++ ".xml") ∧
        (IsText stem → n.bytes = stem ++ bytesOf (suffix ++ ".xml")) ∧
        IsOutputDirectory options fs after input D

/-- A place that a run may change: it holds a directory that was missing for the outputs, or an
output of an input. -/
def MayChange (options : Options) (fs after : FileSystem) (l : Location) : Prop :=
  IsMadeFor options fs after l ∨
    ∃ inputs, inputsAt (m := StateM FileSystem) options.path fs = (.ok inputs, fs) ∧
      ∃ input ∈ inputs, IsOutputOf options fs after input l

/-- What a run with some options may change. -/
structure IsConfined (options : Options) (fs after : FileSystem) : Prop where
  /-- The current directory stays. -/
  workingDirectory : after.workingDirectory = fs.workingDirectory
  /-- Which places cannot be read and written stays. -/
  refusals : after.refusals = fs.refusals
  /-- What is changed is a directory that is made for the outputs, or an output of an input. -/
  change : ∀ l, after.get? l ≠ fs.get? l → MayChange options fs after l
  /-- No source file is made or altered. -/
  sources : ∀ (n : FileName) (stem : Bytes) (d : Location) (contents : ByteArray),
    n.bytes = stem ++ bytesOf ".jack" →
      (after.get? (n :: d) = some (.file contents) ↔ fs.get? (n :: d) = some (.file contents))
  /-- Without the inputs that cannot be read or compiled, the run leaves the same file system,
  whatever the standard output takes. -/
  failed : ∀ inputs fs₁, inputsAt (m := StateM FileSystem) options.path fs = (.ok inputs, fs) →
    prepare (m := StateM FileSystem) options.destination fs = (.ok (), fs₁) →
      ∀ out, after = (analyzeInputs (m := StateM Machine) options (inputs.filter fun input =>
        (compileFile (m := StateM FileSystem) options.withTokens input fs).1.isOk)
          ⟨fs₁, out⟩).2.files
  /-- A path that leads to no input causes no change. -/
  unresolved : ∀ error, inputsAt (m := StateM FileSystem) options.path fs = (.error error, fs) →
    after = fs
  /-- If the directory of the outputs cannot be made, no file is made or altered. -/
  unprepared : ∀ error, (prepare (m := StateM FileSystem) options.destination fs).1 = .error error →
    ∀ l contents, after.get? l = some (.file contents) ↔ fs.get? l = some (.file contents)

/-! ### Changes of a run -/

/-- A change of the preparation is a directory that is made. -/
theorem isMadeFor_of_prepare {result : Except SystemError Unit}
    (prepared : prepare (m := StateM FileSystem) options.destination fs = (result, fs₁))
    (changed : fs₁.get? l ≠ fs.get? l) (kept : fs₁.KeepsDirectories after) :
    IsMadeFor options fs after l := by
  obtain ⟨e, found, ⟨p, needed, located⟩, missing, rfl⟩ :=
    (changesBy_of_prepare prepared).change l changed
  refine ⟨missing, kept.directories l found, ?_⟩
  unfold Destination.directories at needed
  split at needed
  · rename_i directory given
    exact ⟨directory, given, p, needed, locate_mono kept located⟩
  · cases needed

/-- Where the outputs of an input go, as it is found after the preparation. -/
theorem isOutputDirectory_of_ready {D : Location}
    (named : options.destination.IsNamed)
    (prepared : prepare (m := StateM FileSystem) options.destination fs = (.ok (), fs₁))
    (kept : fs₁.KeepsDirectories after) (source : fs.isInput input = true)
    (ready : fs₁.directoryAt (outputHome input options.destination.directory?) = .ok D) :
    IsOutputDirectory options fs after input D := by
  have made := changesBy_of_prepare prepared
  unfold IsOutputDirectory
  cases given : options.destination.directory? with
  | some directory =>
      obtain ⟨D', located, entered⟩ :=
        exists_directoryAt_of_prepare given (named directory given) prepared
      rw [given] at ready
      obtain rfl := Except.ok.inj (ready.symm.trans entered)
      exact locate_mono kept located
  | none =>
      obtain ⟨stem, d, source⟩ := exists_hasSource source
      obtain ⟨n, -, -, located, -⟩ := source.found
      rw [given] at ready
      have home := directoryAt_mono (keepsDirectories_of_isMade made) source.home
      obtain rfl := Except.ok.inj (ready.symm.trans home)
      exact ⟨n, located⟩

/-- A change of the analyses is an output. -/
theorem isOutputOf_of_written
    (named : options.destination.IsNamed)
    (prepared : prepare (m := StateM FileSystem) options.destination fs = (.ok (), fs₁))
    (kept : fs₁.KeepsDirectories after) (source : fs.isInput input = true)
    (ready : IsReady fs₁ options.destination [input]) {contents : ByteArray}
    (written : (l, contents) ∈ options.files fs₁ input)
    (found : after.get? l = some (.file contents)) : IsOutputOf options fs after input l := by
  have made := changesBy_of_prepare prepared
  obtain ⟨stem, d, D, source₁, ready⟩ := ready input List.mem_cons_self
  have toFiles := Options.toFiles_of_mem_files written
  rw [Options.files_of_toFiles toFiles] at written
  obtain ⟨compiled, suffix, text, success, given, rfl, -, free, n, name, place⟩ :=
    source₁.exists_of_mem_analysis ready written
  rw [compiled_of_isMade made source] at success
  refine ⟨toFiles, fun directory => free ?_, compiled, stem, suffix, text, ?_, source₁.stem?, ?_,
    found, n, D, place, name.trans (outputName_eq _ suffix), fun exact => ?_,
    isOutputDirectory_of_ready named prepared kept source ready⟩
  · exact (keepsDirectories_of_isMade made).directories l directory
  · rw [compileFile_apply, success]
  · exact given.imp_right fun listed => ⟨withTokens_of_listed success listed.2, listed⟩
  · rw [name, outputName_eq, String.append_assoc, bytesOf_append, exact.bytesOf_lossy]

/-! ### Confinement -/

/-- No output has the name of a source file. -/
theorem sources_of_change (change : ∀ l, after.get? l ≠ fs.get? l → MayChange options fs after l)
    (n : FileName) (stem : Bytes) (d : Location) (contents : ByteArray)
    (name : n.bytes = stem ++ bytesOf ".jack") :
    after.get? (n :: d) = some (.file contents) ↔ fs.get? (n :: d) = some (.file contents) := by
  by_cases changed : after.get? (n :: d) = fs.get? (n :: d)
  · rw [changed]
  · obtain made | ⟨inputs, -, input, -, output⟩ := change _ changed
    · rw [made.missing, made.made]
      exact ⟨nofun, nofun⟩
    · obtain ⟨-, stem', suffix, -, -, -, -, -, n', D, place, name', -⟩ := output.named
      obtain ⟨rfl, rfl⟩ := List.cons_eq_cons.1 place
      refine absurd ?_ (outputName_ne_sourceName (lossy stem') suffix stem)
      rw [outputName_eq, sourceName_eq, ← name, ← name']

/-- A path that leads to no input. -/
theorem isConfined_of_unresolved {error : AnalysisError}
    (found : fs.inputs options.path = .error error) : IsConfined options fs fs where
  workingDirectory := rfl
  refusals := rfl
  change _ changed := absurd rfl changed
  sources _ _ _ _ _ := Iff.rfl
  failed inputs fs₁ resolved := by
    rw [inputsAt_apply, found] at resolved
    cases resolved
  unresolved _ _ := rfl
  unprepared _ _ _ _ := Iff.rfl

/-- A directory that cannot be made. -/
theorem isConfined_of_unprepared {error : SystemError}
    (found : fs.inputs options.path = .ok inputs)
    (prepared : prepare (m := StateM FileSystem) options.destination fs = (.error error, fs₁)) :
    IsConfined options fs fs₁ := by
  have made := changesBy_of_prepare prepared
  have change : ∀ l, fs₁.get? l ≠ fs.get? l → MayChange options fs fs₁ l := by
    intro l changed
    exact Or.inl (isMadeFor_of_prepare prepared changed (.refl fs₁))
  exact {
    workingDirectory := made.workingDirectory
    refusals := made.refusals
    change := change
    sources := sources_of_change change
    failed := fun inputs fs₁ _ prepared' => by
      rw [prepared] at prepared'
      cases prepared'
    unresolved := fun error resolved => by
      rw [inputsAt_apply, found] at resolved
      cases resolved
    unprepared := fun _ _ l contents => get?_eq_file_iff_of_isMade made l contents }

/-- Nothing is written for an input that cannot be compiled. -/
theorem files_eq_nil {error : AnalysisError}
    (failed : fs.compiled options.withTokens input = .error error) :
    options.files fs input = [] := by
  rw [Options.files, Options.writes_of_not_compiled failed]
  rfl

/-- What adds nothing may be left out. -/
theorem flatMap_filter_of_eq_nil {α β : Type} {keep : α → Bool} {f : α → List β} {as : List α}
    (h : ∀ a ∈ as, keep a = false → f a = []) : (as.filter keep).flatMap f = as.flatMap f := by
  induction as with
  | nil => rfl
  | cons a as ih =>
      have others := ih fun b inside => h b (List.mem_cons_of_mem _ inside)
      cases kept : keep a with
      | true => rw [List.filter_cons_of_pos kept, List.flatMap_cons, List.flatMap_cons, others]
      | false =>
          rw [List.filter_cons_of_neg (by simp [kept]), List.flatMap_cons, others,
            h a List.mem_cons_self kept, List.nil_append]

/-- What is changed by inputs that are analyzed is an output, if it was not made before. -/
theorem mayChange_of_written (named : options.destination.IsNamed)
    (found : fs.inputs options.path = .ok inputs)
    (prepared : prepare (m := StateM FileSystem) options.destination fs = (.ok (), fs₁))
    (left : after = fs₁.putFiles (inputs.flatMap (options.files fs₁)))
    (kept : fs₁.KeepsDirectories after) (changed : after.get? l ≠ fs.get? l) :
    MayChange options fs after l := by
  have sources : ∀ input ∈ inputs, fs.isInput input = true := fun _ => isInput_of_mem_inputs found
  by_cases later : after.get? l = fs₁.get? l
  · rw [later] at changed
    exact Or.inl (isMadeFor_of_prepare prepared changed kept)
  · rw [left] at later
    obtain ⟨contents, inside, there⟩ := exists_of_get?_putFiles_ne later
    obtain ⟨input, inside, file⟩ := List.mem_flatMap.1 inside
    refine Or.inr ⟨inputs, by rw [inputsAt_apply, found], input, inside, ?_⟩
    refine isOutputOf_of_written named prepared kept (sources input inside) ?_ file
      (by rw [left, there])
    exact (isReady_of_prepare sources named prepared).mono
      (List.cons_subset.2 ⟨inside, List.nil_subset _⟩)

/-- Inputs that cannot be read or compiled write nothing. -/
theorem flatMap_files_filter (found : fs.inputs options.path = .ok inputs)
    (prepared : prepare (m := StateM FileSystem) options.destination fs = (.ok (), fs₁)) :
    (inputs.filter fun input => (compileFile (m := StateM FileSystem) options.withTokens
        input fs).1.isOk).flatMap (options.files fs₁) = inputs.flatMap (options.files fs₁) := by
  refine flatMap_filter_of_eq_nil fun input inside failed => ?_
  rw [compileFile_apply, ← compiled_of_isMade (changesBy_of_prepare prepared)
    (isInput_of_mem_inputs found inside)] at failed
  cases result : fs₁.compiled options.withTokens input with
  | error error => exact files_eq_nil result
  | ok compiled =>
      rw [result] at failed
      cases failed

/-- Inputs that are analyzed. -/
theorem isConfined_of_prepared (named : options.destination.IsNamed)
    (found : fs.inputs options.path = .ok inputs)
    (prepared : prepare (m := StateM FileSystem) options.destination fs = (.ok (), fs₁))
    (out : StandardOutput) :
    IsConfined options fs
      (analyzeInputs (m := StateM Machine) options inputs ⟨fs₁, out⟩).2.files := by
  have made := changesBy_of_prepare prepared
  have ready := isReady_of_prepare (fun _ => isInput_of_mem_inputs found) named prepared
  have left (out : StandardOutput) := ready.analyzeInputs_files (s := ⟨fs₁, out⟩) (.refl _ fs₁)
  have resolved : inputsAt (m := StateM FileSystem) options.path fs = (.ok inputs, fs) := by
    rw [inputsAt_apply, found]
  have written := ready.hasWritten_analyzeInputs (s := ⟨fs₁, out⟩) (.refl _ fs₁)
  have change (l : Location) :=
    mayChange_of_written (l := l) named found prepared (left out) written.keepsDirectories
  exact {
    workingDirectory := written.workingDirectory.trans made.workingDirectory
    refusals := written.refusals.trans made.refusals
    change := change
    sources := sources_of_change change
    failed := fun inputs' fs₁' resolved' prepared' out' => by
      obtain rfl := Except.ok.inj (congrArg Prod.fst (resolved.symm.trans resolved'))
      obtain rfl := congrArg Prod.snd (prepared.symm.trans prepared')
      have rest := ready.mono fun _ => List.mem_of_mem_filter (p := fun input =>
        (compileFile (m := StateM FileSystem) options.withTokens input fs).1.isOk)
      rw [left, rest.analyzeInputs_files (.refl _ fs₁), flatMap_files_filter found prepared]
    unresolved := fun error resolved' => by
      rw [resolved] at resolved'
      cases resolved'
    unprepared := fun error prepared' => by
      rw [prepared] at prepared'
      cases prepared' }

/-- A run is confined if its directory is not given without any bytes. -/
theorem run_isConfined (s : Machine) (named : options.destination.IsNamed) :
    IsConfined options s.files (run (m := StateM Machine) options s).2.files := by
  rw [run_apply]
  cases found : s.files.inputs options.path with
  | error error => exact isConfined_of_unresolved found
  | ok inputs =>
      dsimp only
      cases prepared : prepare (m := StateM FileSystem) options.destination s.files with
      | mk result fs₁ =>
          cases result with
          | error error => exact isConfined_of_unprepared found prepared
          | ok _ => exact isConfined_of_prepared named found prepared s.output

end JackSyntax.CommandLine
