/-
**Inputs at their turns.**

Outputs are written in directories that are there before the first of them, and no output is ever an
input.  So what an input comes to at its turn can be told from the files before the first turn and
from the standard output at this one, and the files that a run leaves from the files before it.

Main definitions:

* `Outcome.ofResult` — the outcome of an analysis that writes files;
* `IsReliable` — no print fails;
* `HaveDistinctStems` — no two inputs have stems that are shown alike.

Main results:

* `analyzeInput_apply` — **the analysis of an input at its turn**;
* `IsReady.outcome_turn`, `IsReady.analyzeInputs_files` — the outcomes of a run, and the files that
  it leaves;
* `IsReady.succeeds_turn_iff` — inputs succeed and fail at their turns as the functions say.
-/

import JackSyntax.Proofs.CommandLine.Failures
import JackSyntax.Proofs.CommandLine.Runs

set_option relaxedAutoImplicit false
set_option autoImplicit false

namespace JackSyntax.CommandLine

open FileSystem

variable {fs : FileSystem} {s : Machine} {options : Options} {input : Path} {stem : Bytes}
  {d D : Location} {inputs : List Path}

/-! ### A single input -/

/-- The outcome of an analysis that writes files. -/
def Outcome.ofResult (verbose : Bool) : Except AnalysisError (List Path) → Outcome
  | .ok paths => .wrote verbose paths
  | .error error => .failed error

/-- An input whose outputs are not printed is analyzed as it is without a report. -/
theorem analyzeInput_eq {m : Type → Type} [Monad m] [LawfulMonad m] [MonadFiles m] [MonadOutput m]
    {options : Options} (toFiles : options.destination ≠ .standardOutput) (input : Path) :
    analyzeInput (m := m) options input = Outcome.ofResult options.verbose <$>
      analyzeFile options.withTokens options.destination.directory? input := by
  unfold analyzeInput analyzeFile
  rw [map_bind]
  refine bind_congr fun result => ?_
  cases result with
  | error error => simp [Outcome.ofResult]
  | ok compiled =>
      have written (outputs : List (Path × String)) : (do
          match ← writeOutputs (m := m) outputs with
          | .ok paths => return .wrote options.verbose paths
          | .error error => return .failed error) =
            Outcome.ofResult options.verbose <$> writeOutputs outputs := by
        rw [map_eq_pure_bind]
        exact bind_congr fun result => by cases result <;> rfl
      cases destination : options.destination with
      | standardOutput => exact absurd destination toFiles
      | beside => exact written _
      | inside directory => exact written _

/-- The outcome of an input whose outputs are written is that of its analysis. -/
theorem Options.outcome_of_toFiles (toFiles : options.destination ≠ .standardOutput)
    (fs : FileSystem) (out : StandardOutput) (input : Path) :
    options.outcome fs out input = .ofResult options.verbose
      (fs.analysis options.withTokens options.destination.directory? input).1 := by
  rw [Options.outcome, analysis]
  cases texts : fs.compiled options.withTokens input with
  | error error => rfl
  | ok compiled =>
      dsimp only
      rw [error?_of_toFiles toFiles (compiled_eq_ok_iff.1 texts), plan_fst,
        success_of_toFiles toFiles, toWrite_of_toFiles toFiles]
      cases (compiled.outputs input options.destination.directory?).findSome? fs.refusal? <;> rfl

/-- **The analysis of an input at its turn.** -/
theorem analyzeInput_apply (source : fs.HasSource input stem d)
    (ready : fs.directoryAt (outputHome input options.destination.directory?) = .ok D)
    (h : fs.HasWritten s.files) :
    analyzeInput (m := StateM Machine) options input s =
      (options.outcome fs s.output input,
        ⟨s.files.putFiles (options.files fs input),
          (s.output.printAll (options.prints fs input)).2⟩) := by
  have embeds := Machine.embedsWrites_onFiles
  by_cases printed : options.destination = .standardOutput
  · rw [analyzeInput, bind_apply, embeds.compileFile, Machine.onFiles_apply, compileFile_apply,
      h.compiled source, printed, Options.files, Options.writes_of_printed printed, Options.outcome,
      Options.prints, Options.error?]
    cases fs.compiled options.withTokens input with
    | error error => rfl
    | ok compiled =>
        dsimp only
        rw [bind_apply, printTexts_apply, Options.toPrint_of_printed printed,
          Options.toWrite_of_printed printed, Options.success, printed, printRefusal?]
        rcases s.output.printAll compiled.texts with ⟨error | ⟨⟩, last⟩ <;> rfl
  · rw [analyzeInput_eq printed, map_apply, embeds.analyzeFile, Machine.onFiles_apply,
      source.analyzeFile_apply ready h, Options.outcome_of_toFiles printed,
      Options.files_of_toFiles printed, Options.prints_of_toFiles printed]
    rfl

/-! ### Inputs that are ready -/

/-- The files of a ready input are outputs. -/
theorem IsReady.isOutput (h : IsReady fs options.destination inputs) (inside : input ∈ inputs)
    {file : Location × ByteArray} (written : file ∈ options.files fs input) :
    IsOutput file.1 ∧ fs.get? file.1 ≠ some .directory := by
  obtain ⟨stem, d, D, source, ready⟩ := h input inside
  rw [Options.files_of_toFiles (Options.toFiles_of_mem_files written)] at written
  exact source.isOutput_of_mem_analysis ready written

theorem IsReady.analyzeInput_apply (h : IsReady fs options.destination inputs)
    (inside : input ∈ inputs) (written : fs.HasWritten s.files) :
    analyzeInput (m := StateM Machine) options input s =
      (options.outcome fs s.output input,
        ⟨s.files.putFiles (options.files fs input),
          (s.output.printAll (options.prints fs input)).2⟩) := by
  obtain ⟨stem, d, D, source, ready⟩ := h input inside
  exact CommandLine.analyzeInput_apply source ready written

/-- Some of the inputs are ready if all are. -/
theorem IsReady.mono {destination : Destination} {order : List Path}
    (h : IsReady fs destination inputs) (sub : order ⊆ inputs) : IsReady fs destination order :=
  fun input inside => h input (sub inside)

/-- Where a ready input is analyzed, only outputs have been written. -/
theorem IsReady.hasWritten_analyzeInput (h : IsReady fs options.destination inputs)
    (inside : input ∈ inputs) (written : fs.HasWritten s.files) :
    fs.HasWritten (analyzeInput (m := StateM Machine) options input s).2.files := by
  rw [h.analyzeInput_apply inside written]
  exact written.putFiles fun file => h.isOutput inside

/-! ### All inputs -/

/-- The files that a run over ready inputs leaves. -/
theorem IsReady.analyzeInputs_files (h : IsReady fs options.destination inputs)
    (written : fs.HasWritten s.files) :
    (analyzeInputs (m := StateM Machine) options inputs s).2.files =
      s.files.putFiles (inputs.flatMap (options.files fs)) := by
  induction inputs generalizing s with
  | nil => rfl
  | cons input inputs ih =>
      have next := h.hasWritten_analyzeInput List.mem_cons_self written
      rw [analyzeInputs_cons_apply]
      dsimp only
      rw [ih (h.mono (List.subset_cons_self _ _)) next,
        h.analyzeInput_apply List.mem_cons_self written, List.flatMap_cons, putFiles_append]

/-- Where ready inputs are analyzed, only outputs have been written. -/
theorem IsReady.hasWritten_analyzeInputs (h : IsReady fs options.destination inputs)
    (written : fs.HasWritten s.files) :
    fs.HasWritten (analyzeInputs (m := StateM Machine) options inputs s).2.files := by
  rw [h.analyzeInputs_files written]
  refine written.putFiles fun file inside => ?_
  obtain ⟨input, inside, file⟩ := List.mem_flatMap.1 inside
  exact h.isOutput inside file

/-- When it is the turn of an input, only outputs have been written. -/
theorem IsReady.hasWritten_turn (h : IsReady fs options.destination inputs)
    (written : fs.HasWritten s.files) {turn : Turn} (inside : turn ∈ turns options s inputs) :
    fs.HasWritten turn.machine.files := by
  induction inputs generalizing s with
  | nil => cases inside
  | cons input inputs ih =>
      have next := h.hasWritten_analyzeInput List.mem_cons_self written
      rcases List.mem_cons.1 inside with rfl | inside
      · exact written
      · exact ih (h.mono (List.subset_cons_self _ _)) next inside

/-- The outcome of a turn is told by the files before the first turn and the standard output at this
one. -/
theorem IsReady.outcome_turn (h : IsReady fs options.destination inputs)
    (written : fs.HasWritten s.files) {turn : Turn} (inside : turn ∈ turns options s inputs) :
    turn.outcome options = options.outcome fs turn.machine.output turn.input := by
  rw [Turn.outcome, h.analyzeInput_apply (Turn.input_mem inside) (h.hasWritten_turn written inside)]

/-- The outcomes of inputs at their turns. -/
def Options.outcomes (options : Options) (fs : FileSystem) (turns : List Turn) : List Outcome :=
  turns.map fun turn => options.outcome fs turn.machine.output turn.input

/-- The outcomes of a run. -/
theorem IsReady.analyzeInputs_fst (h : IsReady fs options.destination inputs)
    (written : fs.HasWritten s.files) :
    (analyzeInputs (m := StateM Machine) options inputs s).1 =
      options.outcomes fs (turns options s inputs) := by
  rw [CommandLine.analyzeInputs_fst]
  exact List.map_congr_left fun turn => h.outcome_turn written

/-- Inputs succeed and fail at their turns as the functions say. -/
theorem IsReady.succeeds_turn_iff (h : IsReady fs options.destination inputs)
    (written : fs.HasWritten s.files) {turn : Turn} (inside : turn ∈ turns options s inputs) :
    (Succeeds options fs turn.machine.output turn.input ↔
        (turn.outcome options).succeeded = true) ∧
      ∀ error, FailsWith options fs turn.machine.output turn.input error →
        turn.outcome options = .failed error := by
  rw [h.outcome_turn written inside, Options.succeeded_outcome, Option.isNone_iff_eq_none,
    Options.error?_eq_none_iff]
  exact ⟨Iff.rfl, fun error fails => Options.outcome_of_error (Options.error?_eq_some_iff.2 fails)⟩

/-! ### Prints that do not fail -/

/-- No print fails: the outputs go to files, or the standard output takes everything. -/
def IsReliable (options : Options) (out : StandardOutput) : Prop :=
  options.destination ≠ .standardOutput ∨ out.TakesAll

theorem IsReliable.printRefusal?_eq_none {out : StandardOutput} (h : IsReliable options out)
    (input : Path) (compiled : Compiled) :
    printRefusal? input out (options.toPrint compiled) = none := by
  rcases h with toFiles | takes
  · rw [Options.toPrint_of_toFiles toFiles]
    rfl
  · obtain ⟨last, printed, -⟩ := takes.printAll (options.toPrint compiled)
    exact printRefusal?_eq_none_iff.2 ⟨last, StandardOutput.printAll_eq_ok_iff.1 printed⟩

/-- Where no print fails, the standard output makes no difference. -/
theorem IsReliable.outcome_eq {out out' : StandardOutput} (h : IsReliable options out)
    (h' : IsReliable options out') (fs : FileSystem) (input : Path) :
    options.outcome fs out input = options.outcome fs out' input := by
  rw [Options.outcome, Options.outcome, Options.error?, Options.error?]
  cases fs.compiled options.withTokens input with
  | error error => rfl
  | ok compiled =>
      dsimp only
      rw [h.printRefusal?_eq_none, h'.printRefusal?_eq_none]

/-- If no print fails at first, none fails at any turn. -/
theorem IsReady.isReliable_turn (h : IsReady fs options.destination inputs)
    (written : fs.HasWritten s.files) (reliable : IsReliable options s.output) {turn : Turn}
    (inside : turn ∈ turns options s inputs) : IsReliable options turn.machine.output := by
  rcases reliable with toFiles | takes
  · exact Or.inl toFiles
  · right
    induction inputs generalizing s with
    | nil => cases inside
    | cons input inputs ih =>
        rcases List.mem_cons.1 inside with rfl | inside
        · exact takes
        · refine ih (h.mono (List.subset_cons_self _ _))
            (h.hasWritten_analyzeInput List.mem_cons_self written) inside ?_
          rw [h.analyzeInput_apply List.mem_cons_self written]
          obtain ⟨last, printed, takes'⟩ := takes.printAll (options.prints fs input)
          exact printed ▸ takes'

/-! ### Outputs of a batch -/

/-- No two inputs have stems that are shown alike. -/
def HaveDistinctStems (inputs : List Path) : Prop :=
  ∀ input ∈ inputs, ∀ other ∈ inputs, input.shownStem = other.shownStem → input = other

/-- Inputs of a batch have stems that are shown differently if their names are texts. -/
theorem IsBatch.haveDistinctStems {destination : Destination}
    (h : IsBatch fs destination inputs d D)
    (texts : ∀ input ∈ inputs, IsText (input.fileName?.getD [])) : HaveDistinctStems inputs := by
  intro input inside other inside' same
  obtain ⟨stem, source⟩ := h.source input inside
  obtain ⟨stem', source'⟩ := h.source other inside'
  have named := texts input inside
  have named' := texts other inside'
  rw [source.fileName?, Option.getD_some] at named
  rw [source'.fileName?, Option.getD_some] at named'
  rw [source.shownStem, source'.shownStem] at same
  obtain rfl := (isText_of_append_cons (by decide) named).1.eq_of_lossy_eq
    (isText_of_append_cons (by decide) named').1 same
  exact h.eq_of_fileName? inside inside' (source.fileName?.trans source'.fileName?.symm)

/-- An input that succeeds is compiled, and each of its texts is written. -/
theorem exists_compiled_of_succeeded {out : StandardOutput}
    (toFiles : options.destination ≠ .standardOutput)
    (succeeded : (options.outcome fs out input).succeeded = true) :
    ∃ compiled, fs.compiled options.withTokens input = .ok compiled ∧
      ∀ output ∈ compiled.outputs input options.destination.directory?,
        ∃ l, fs.target output.1 = .ok l ∧ (l, output.2.toUTF8) ∈ options.files fs input := by
  rw [Options.outcome_of_toFiles toFiles, analysis] at succeeded
  rw [Options.files_of_toFiles toFiles, analysis]
  cases success : fs.compiled options.withTokens input with
  | error error =>
      rw [success] at succeeded
      cases succeeded
  | ok compiled =>
      rw [success] at succeeded
      dsimp only at succeeded ⊢
      cases written : (fs.plan (compiled.outputs input options.destination.directory?)).1 with
      | error error =>
          rw [written] at succeeded
          cases succeeded
      | ok paths => exact ⟨compiled, rfl, fun output => exists_mem_plan_of_ok written⟩

/-- A machine with a source, and with a directory where its listing belongs. -/
def blockedListing : Machine where
  files := ((FileSystem.empty []).put [⟨bytesOf "A.jack", by decide⟩]
    (.file "class A { }".toUTF8)).put [⟨bytesOf "AT.xml", by decide⟩] .directory
  output := .fresh

end JackSyntax.CommandLine
