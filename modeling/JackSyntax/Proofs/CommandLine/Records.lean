/-
**What a run writes.**

A run is recorded to see what it writes, apart from what it says about it.  Nothing is written while
inputs are found, directories made, sources compiled and texts printed.  So the record of a run is
put together from those of its inputs, and for each input it holds the outputs before the first that
cannot be written.

Main results:

* `tracks_execute` — **recording changes nothing**;
* `record_analyzeInputs` — **the record of several inputs**;
* `record_run`, `Begins.record_run` — the record of a run.
-/

import JackSyntax.Proofs.CommandLine.Outcomes
import JackSyntax.Proofs.Files.Recording

set_option relaxedAutoImplicit false
set_option autoImplicit false

namespace JackSyntax

open FileSystem

/-! ### Outputs -/

theorem tracks_writeOutputs (outputs : List (Path × String)) :
    Tracks (writeOutputs outputs) (writeOutputs outputs) := by
  induction outputs with
  | nil => exact tracks_pure _
  | cons output outputs ih =>
      obtain ⟨path, text⟩ := output
      rw [writeOutputs, writeOutputs]
      refine (tracks_write path text.toUTF8).bind fun result => ?_
      cases result with
      | error error => exact tracks_pure _
      | ok _ => exact ih.bind fun paths => tracks_pure _

namespace CommandLine

variable {fs fs₁ : FileSystem} {s : Machine} {options : Options} {inputs : List Path}
  {input directory : Path} {stem : Bytes} {d D : Location} {outputs : List (Path × String)}

/-- Texts are printed without a write. -/
theorem printTexts_eq_silently (input : Path) (texts : List String) :
    printTexts (m := StateM Recorded) input texts = silently (printTexts input texts) := by
  induction texts with
  | nil => rfl
  | cons text texts ih =>
      rw [printTexts, printTexts, embeds_silently.bind]
      refine bind_congr fun result => ?_
      cases result with
      | error error => rfl
      | ok _ => exact ih

/-! ### Recording changes nothing -/

theorem tracks_analyzeInput (options : Options) (input : Path) :
    Tracks (analyzeInput options input) (analyzeInput options input) := by
  unfold analyzeInput
  rw [embeds_silently.compileFile]
  refine (tracks_silently _).bind fun result => ?_
  cases result with
  | error error => exact tracks_pure _
  | ok compiled =>
      dsimp only
      split
      · rw [printTexts_eq_silently]
        refine (tracks_silently _).bind fun result => ?_
        cases result <;> exact tracks_pure _
      · refine (tracks_writeOutputs _).bind fun result => ?_
        cases result <;> exact tracks_pure _

theorem tracks_analyzeInputs (options : Options) (inputs : List Path) :
    Tracks (analyzeInputs options inputs) (analyzeInputs options inputs) := by
  induction inputs with
  | nil => exact tracks_pure _
  | cons input inputs ih =>
      rw [analyzeInputs, analyzeInputs]
      exact (tracks_analyzeInput options input).bind fun outcome =>
        ih.bind fun others => tracks_pure _

theorem tracks_run (options : Options) : Tracks (run options) (run options) := by
  unfold run
  rw [embeds_silently.inputsAt, prepare_eq_embed embeds_silently]
  refine (tracks_silently _).bind fun found => ?_
  cases found with
  | error error => exact tracks_pure _
  | ok inputs =>
      refine (tracks_silently _).bind fun prepared => ?_
      cases prepared with
      | error error => exact tracks_pure _
      | ok _ => exact (tracks_analyzeInputs options inputs).bind fun outcomes => tracks_pure _

theorem tracks_inform (text : String) : Tracks (inform text) (inform text) :=
  (tracks_silently (MonadOutput.print text)).bind fun _ => tracks_pure _

/-- **Recording changes nothing**: a command line has the same report and leaves the same
machine. -/
theorem tracks_execute (arguments : List Bytes) :
    Tracks (execute arguments) (execute arguments) := by
  unfold execute
  split
  · exact tracks_pure _
  · exact tracks_inform _
  · exact tracks_inform _
  · exact tracks_run _

/-! ### The record of an input -/

/-- An output as it is recorded. -/
def asRecorded (output : Path × String) : Path × ByteArray := (output.1, output.2.toUTF8)

/-- An output that can be written is recorded, and those behind it are tried. -/
theorem record_writeOutputs_cons (path : Path) (text : String) (outputs : List (Path × String))
    (s : Machine) :
    record (writeOutputs ((path, text) :: outputs)) s =
      match s.files.target path with
      | .error _ => []
      | .ok l => (path, text.toUTF8) :: record (writeOutputs outputs)
          { s with files := s.files.put l (.file text.toUTF8) } := by
  rw [record, writeOutputs, bind_apply, (tracks_write _ _).apply, record_write, Machine.write_apply]
  cases s.files.target path with
  | error error => rfl
  | ok l =>
      dsimp only
      rw [bind_apply, tracks_writeOutputs outputs]
      rfl

/-- Outputs are recorded until one cannot be written, also after others. -/
theorem record_writeOutputs (named : AreOutputsIn directory outputs)
    (ready : fs.directoryAt directory = .ok D) (h : fs.HasWritten s.files) :
    record (writeOutputs outputs) s =
      (outputs.takeWhile fun output => (fs.refusal? output).isNone).map asRecorded := by
  induction outputs generalizing s with
  | nil => rfl
  | cons output outputs ih =>
      obtain ⟨path, text⟩ := output
      have named' : AreOutputsIn directory outputs := fun other inside =>
        named other (List.mem_cons_of_mem _ inside)
      have placed : s.files.target path = fs.target path :=
        named.target_eq ready h List.mem_cons_self
      rw [record_writeOutputs_cons, placed, List.takeWhile_cons, refusal?]
      cases first : fs.target path with
      | error error => rfl
      | ok l =>
          have next := named.hasWritten_put ready h List.mem_cons_self first
          dsimp only
          rw [ih named' next]
          rfl

/-- The record of an analysis without a report, also after others. -/
theorem record_analyzeFile (source : fs.HasSource input stem d)
    (toFiles : options.destination ≠ .standardOutput)
    (ready : fs.directoryAt (outputHome input options.destination.directory?) = .ok D)
    (h : fs.HasWritten s.files) :
    record (analyzeFile options.withTokens options.destination.directory? input) s =
      (options.writes fs input).map asRecorded := by
  have compiles : compileFile (m := StateM Machine) options.withTokens input s =
      (fs.compiled options.withTokens input, s) := by
    rw [Machine.embedsWrites_onFiles.compileFile, Machine.onFiles_apply, compileFile_apply,
      h.compiled source]
  rw [record, analyzeFile, bind_apply, embeds_silently.compileFile, silently, compiles,
    Options.writes]
  cases fs.compiled options.withTokens input with
  | error error => rfl
  | ok compiled =>
      dsimp only
      rw [Options.toWrite_of_toFiles toFiles]
      exact record_writeOutputs (source.areOutputsIn _ compiled) ready h

/-- Nothing is written for an input whose texts are printed. -/
theorem record_analyzeInput_of_printed (printed : options.destination = .standardOutput)
    (input : Path) (s : Machine) : record (analyzeInput options input) s = [] := by
  rw [record, analyzeInput, bind_apply, embeds_silently.compileFile, printed]
  cases (silently (compileFile options.withTokens input) ⟨s, []⟩).1 with
  | error error => rfl
  | ok compiled =>
      dsimp only
      rw [bind_apply, printTexts_eq_silently]
      cases (silently (printTexts input compiled.texts)
        (silently (compileFile options.withTokens input) ⟨s, []⟩).2).1 <;> rfl

/-- The record of an input, also after others. -/
theorem record_analyzeInput (source : fs.HasSource input stem d)
    (ready : fs.directoryAt (outputHome input options.destination.directory?) = .ok D)
    (h : fs.HasWritten s.files) :
    record (analyzeInput options input) s = (options.writes fs input).map asRecorded := by
  by_cases printed : options.destination = .standardOutput
  · rw [Options.writes_of_printed printed, record_analyzeInput_of_printed printed]
    rfl
  · rw [analyzeInput_eq printed, record_map, record_analyzeFile source printed ready h]

/-! ### The record of a run -/

/-- **The record of several inputs** is put together from those of each. -/
theorem record_analyzeInputs (ready : IsReady fs options.destination inputs)
    (h : fs.HasWritten s.files) :
    record (analyzeInputs options inputs) s =
      inputs.flatMap fun input => (options.writes fs input).map asRecorded := by
  induction inputs generalizing s with
  | nil => rfl
  | cons input inputs ih =>
      obtain ⟨stem, d, D, source, entered⟩ := ready input List.mem_cons_self
      have next := ready.hasWritten_analyzeInput List.mem_cons_self h
      have others := ih (ready.mono (List.subset_cons_self _ _)) next
      rw [analyzeInputs, record_bind (tracks_analyzeInput options input) fun _ =>
          (tracks_analyzeInputs options inputs).bind fun _ => tracks_pure _,
        record_bind (tracks_analyzeInputs options inputs) fun _ => tracks_pure _,
        record_analyzeInput source entered h, others, List.flatMap_cons]
      exact congrArg _ (List.append_nil _)

/-- A run writes what its inputs write. -/
theorem record_run (options : Options) (s : Machine) :
    record (run options) s =
      match s.files.inputs options.path with
      | .error _ => []
      | .ok inputs =>
          match prepare (m := StateM FileSystem) options.destination s.files with
          | (.error _, _) => []
          | (.ok (), fs₁) => record (analyzeInputs options inputs) { s with files := fs₁ } := by
  have embeds := Machine.embedsWrites_onFiles.toEmbeds
  rw [record, run, bind_apply, embeds_silently.inputsAt, silently, embeds.inputsAt,
    Machine.onFiles_apply, inputsAt_apply]
  cases s.files.inputs options.path with
  | error error => rfl
  | ok inputs =>
      dsimp only
      rw [bind_apply, prepare_eq_embed embeds_silently, silently, prepare_eq_embed embeds,
        Machine.onFiles_apply]
      dsimp only
      generalize prepare (m := StateM FileSystem) options.destination s.files = prepared
      obtain ⟨result, fs₁⟩ := prepared
      cases result <;> rfl

/-- Once a run has begun, it writes what its inputs write. -/
theorem Begins.record_run (h : Begins options s.files inputs fs₁)
    (named : options.destination.IsNamed) :
    record (run options) s =
      inputs.flatMap fun input => (options.writes fs₁ input).map asRecorded := by
  rw [CommandLine.record_run, (begins_iff.1 h).1]
  dsimp only
  rw [h.2]
  exact record_analyzeInputs (h.isReady named) (.refl _ fs₁)

end CommandLine

end JackSyntax
