/-
**The report accounts for every input.**

Each input that fails is reported once, with its first error, and the others are not.  So the errors
of a report and the inputs that succeed are together as many as the inputs, and the last line of a
detailed report says how many succeed.  The exit code is zero if there is nothing to report.

An input whose texts cannot be printed has failed too.  Whether they can be depends on what has been
printed before, so an input succeeds or fails at its turn.

Main definitions:

* `labelled` — what the lines with a label say;
* `Verdicts` — the turns of the inputs that succeed and those of the inputs that fail, and
  `Options.verdicts` — those of a run;
* `IsAccount` — what a report says about inputs, and `IsAccounted` — what it says about a run.

Main results:

* `labelled_error_ofOutcomes` — the errors of a report are those of the inputs;
* `IsReady.isAccount` — the report of a run over inputs accounts for them;
* `execute_isAccounted` — **exit code, errors and last line account for every input**.
-/

import JackSyntax.Proofs.CommandLine.Outcomes
import JackSyntax.Proofs.Lexing.Spelling

set_option relaxedAutoImplicit false
set_option autoImplicit false

namespace JackSyntax

open FileSystem

/-! ### Inputs in order -/

namespace FileSystem

variable {fs : FileSystem} {path : Path} {found : List Path} {error : AnalysisError}

/-- Inputs are found in the order of their names. -/
theorem pairwise_precedes_of_inputs (h : fs.inputs path = .ok found) :
    found.Pairwise Path.Precedes := by
  by_cases directory : fs.find? path = some .directory
  · obtain ⟨d, -, ordered⟩ := inputs_directory directory h
    exact ordered
  · rw [inputs, if_neg directory] at h
    split at h
    · rw [← Except.ok.inj h]
      exact List.pairwise_singleton ..
    · cases h

theorem inputsAt_eq_error_iff :
    inputsAt (m := StateM FileSystem) path fs = (.error error, fs) ↔
      fs.inputs path = .error error := by
  rw [inputsAt_apply]
  exact ⟨congrArg Prod.fst, congrArg (·, fs)⟩

/-- If there are no inputs, it is for the path that names them. -/
theorem path_of_inputs (h : fs.inputs path = .error error) : error.path = path := by
  unfold inputs at h
  split at h
  · split at h
    · cases h
    · rw [← Except.error.inj h]
      rfl
  · split at h
    · cases h
    · rw [← Except.error.inj h]
      rfl

end FileSystem

namespace CommandLine

variable {fs fs₁ : FileSystem} {s : Machine} {options : Options} {inputs : List Path}
  {label : String} {lines more : List String} {error : AnalysisError}

/-! ### Lines with a label -/

/-- What the lines with a label say behind it. -/
def labelled (label : String) (lines : List String) : List String :=
  lines.filterMap fun line => (line.toList.dropPrefix? label.toList).map String.ofList

theorem labelled_append :
    labelled label (lines ++ more) = labelled label lines ++ labelled label more :=
  List.filterMap_append

theorem labelled_flatMap {α : Type} (as : List α) (f : α → List String) :
    labelled label (as.flatMap f) = as.flatMap fun a => labelled label (f a) := by
  induction as with
  | nil => rfl
  | cons a as ih => rw [List.flatMap_cons, List.flatMap_cons, labelled_append, ih]

/-- Lines that all have the label. -/
theorem labelled_map (label : String) (texts : List String) :
    labelled label (texts.map (label ++ ·)) = texts := by
  have read (text : String) : (label.toList ++ text.toList).dropPrefix? label.toList =
      some text.toList :=
    List.dropPrefix?_append_of_beq _ (beq_self_eq_true _)
  simp [labelled, List.filterMap_map, read]

/-- Lines that begin with another character than the label. -/
theorem labelled_eq_nil {c : Char} (first : label.toList.head? = some c)
    (other : ∀ line ∈ lines, line.toList.head? ≠ some c) : labelled label lines = [] := by
  rw [labelled, List.filterMap_eq_nil_iff]
  intro line inside
  rw [Option.map_eq_none_iff]
  by_contra found
  obtain ⟨rest, found⟩ := Option.ne_none_iff_exists'.1 found
  obtain ⟨front, whole, same⟩ := List.dropPrefix?_eq_some_iff.1 found
  obtain rfl := beq_iff_eq.1 same
  refine other line inside ?_
  rw [whole, List.head?_append, first]
  rfl

/-- The last line of a detailed report begins with a digit. -/
theorem head?_summary (outcomes : List Outcome) {c : Char} (noDigit : c.isDigit = false) :
    (summary outcomes).toList.head? ≠ some c := by
  obtain ⟨some, digits, -⟩ := numeral_digits (outcomes.length - failures outcomes)
  obtain ⟨first, rest, same⟩ := List.exists_cons_of_ne_nil some
  rw [summary]
  simp only [String.toList_append, same, List.cons_append, List.head?_cons, ne_eq,
    Option.some.injEq]
  rintro rfl
  rw [digits first (same ▸ List.mem_cons_self)] at noDigit
  cases noDigit

/-- An input contributes the line of its error if it fails, and no such line if it succeeds. -/
theorem labelled_error_outcome (options : Options) (fs : FileSystem) (out : StandardOutput)
    (input : Path) :
    labelled "error: " (options.outcome fs out input).diagnostics =
      ((options.error? fs out input).map AnalysisError.message).toList := by
  cases h : options.error? fs out input with
  | some error =>
      rw [Options.outcome_of_error h]
      exact labelled_map "error: " [error.message]
  | none =>
      obtain ⟨compiled, texts, -⟩ := Options.error?_eq_none_iff.1 h
      rw [Options.outcome_of_success texts h]
      refine labelled_eq_nil (c := 'e') (by decide) fun line inside => ?_
      unfold Options.success at inside
      split at inside
      · cases inside
      · unfold Outcome.wrote at inside
        split at inside
        · obtain ⟨path, -, rfl⟩ := List.mem_map.1 inside
          simp
        · cases inside

/-! ### Verdicts -/

/-- The turns of the inputs that succeed and of the inputs that fail, each of these with its first
error. -/
structure Verdicts (options : Options) (inputs : List Path) (s : Machine) where
  successes : List Turn
  failures : List (Turn × AnalysisError)
  all : (successes ++ failures.map Prod.fst).Perm (turns options s inputs)
  successesInOrder : successes.Sublist (turns options s inputs)
  failuresInOrder : (failures.map Prod.fst).Sublist (turns options s inputs)
  succeeds : ∀ turn ∈ successes, Succeeds options s.files turn.machine.output turn.input
  fails : ∀ failure ∈ failures,
    FailsWith options s.files failure.1.machine.output failure.1.input failure.2

/-- The error of an input at its turn, if it fails. -/
def Turn.error? (options : Options) (fs : FileSystem) (turn : Turn) : Option AnalysisError :=
  options.error? fs turn.machine.output turn.input

/-- The turns of the inputs that fail, each with its error. -/
def Options.failedTurns (options : Options) (fs : FileSystem) (turns : List Turn) :
    List (Turn × AnalysisError) :=
  turns.filterMap fun turn => (turn.error? options fs).map (turn, ·)

/-- The turns with an error, without their errors. -/
theorem Options.map_fst_failedTurns (options : Options) (fs : FileSystem) (turns : List Turn) :
    (options.failedTurns fs turns).map Prod.fst =
      turns.filter fun turn => (turn.error? options fs).isSome := by
  rw [failedTurns, List.map_filterMap]
  induction turns with
  | nil => rfl
  | cons turn turns ih =>
      rw [List.filterMap_cons, List.filter_cons, ih]
      cases turn.error? options fs <;> rfl

/-- The verdicts of a run. -/
def Options.verdicts (options : Options) (inputs : List Path) (s : Machine) :
    Verdicts options inputs s where
  successes := (turns options s inputs).filter fun turn => (turn.error? options s.files).isNone
  failures := options.failedTurns s.files (turns options s inputs)
  all := by
    rw [map_fst_failedTurns]
    simpa using List.filter_append_perm (fun turn => (turn.error? options s.files).isNone)
      (turns options s inputs)
  successesInOrder := List.filter_sublist
  failuresInOrder := by
    rw [map_fst_failedTurns]
    exact List.filter_sublist
  succeeds turn inside :=
    error?_eq_none_iff.1 (Option.isNone_iff_eq_none.1 (List.mem_filter.1 inside).2)
  fails failure inside := by
    obtain ⟨turn, -, h⟩ := List.mem_filterMap.1 inside
    obtain ⟨error, fails, rfl⟩ := Option.map_eq_some_iff.1 h
    exact error?_eq_some_iff.1 fails

/-- Every input succeeds or fails. -/
theorem Verdicts.length_add_length (verdicts : Verdicts options inputs s) :
    verdicts.successes.length + verdicts.failures.length = inputs.length := by
  have all := verdicts.all.length_eq
  rwa [List.length_append, List.length_map, length_turns] at all

/-! ### Reports -/

/-- What a report says about the inputs of a run. -/
structure IsAccount (verdicts : Verdicts options inputs s) (report : Report) : Prop where
  /-- Each input that fails is reported once, with the path that failed and the cause. -/
  errors : labelled "error: " report.diagnostics = verdicts.failures.map fun failure =>
    failure.2.path.text ++ ": " ++ failure.2.cause
  /-- The inputs that succeed and the errors that are reported are as many as the inputs. -/
  count : verdicts.successes.length + (labelled "error: " report.diagnostics).length = inputs.length
  /-- The last line of a detailed report is the summary. -/
  lastLine : options.verbose = true → report.diagnostics.getLast? =
    some (toString verdicts.successes.length ++ " of " ++ toString inputs.length ++
      " file(s) analyzed")
  /-- A report that is not detailed says nothing else. -/
  nothingElse : options.verbose = false → report.diagnostics = verdicts.failures.map fun failure =>
    "error: " ++ (failure.2.path.text ++ ": " ++ failure.2.cause)
  /-- As many failures are subtracted from the number of inputs as errors are reported. -/
  subtracted : failures (analyzeInputs (m := StateM Machine) options inputs s).1 =
    (labelled "error: " report.diagnostics).length
  /-- The failures are no more than what they are subtracted from. -/
  noUnderflow : failures (analyzeInputs (m := StateM Machine) options inputs s).1 ≤ inputs.length

/-- The lines with a label come from the outcomes if the label does not begin with a digit. -/
theorem labelled_ofOutcomes {c : Char} (first : label.toList.head? = some c)
    (noDigit : c.isDigit = false) (verbose : Bool) (outcomes : List Outcome) :
    labelled label (Report.ofOutcomes verbose outcomes).diagnostics =
      outcomes.flatMap fun outcome => labelled label outcome.diagnostics := by
  have lastLine : labelled label (if verbose then [summary outcomes] else []) = [] := by
    refine labelled_eq_nil first fun line inside => ?_
    split at inside
    · rw [List.mem_singleton.1 inside]
      exact head?_summary outcomes noDigit
    · cases inside
  rw [Report.ofOutcomes, labelled_append, lastLine, List.append_nil, labelled_flatMap]

/-- The errors of a report are those of the inputs at their turns, in their order. -/
theorem labelled_error_ofOutcomes (options : Options) (fs : FileSystem) (turns : List Turn) :
    labelled "error: " (Report.ofOutcomes options.verbose (options.outcomes fs turns)).diagnostics =
      (options.failedTurns fs turns).map fun failure => failure.2.message := by
  rw [labelled_ofOutcomes (c := 'e') (by decide) (by decide), Options.outcomes, List.flatMap_map,
    Options.failedTurns, List.map_filterMap]
  simp only [labelled_error_outcome, Turn.error?]
  induction turns with
  | nil => rfl
  | cons turn turns ih =>
      rw [List.flatMap_cons, List.filterMap_cons, ih]
      cases options.error? fs turn.machine.output turn.input <;> rfl

/-- As many outcomes are failures as inputs fail. -/
theorem failures_outcomes (options : Options) (fs : FileSystem) (turns : List Turn) :
    failures (options.outcomes fs turns) = (options.failedTurns fs turns).length := by
  rw [failures, Options.outcomes, List.countP_map, Options.failedTurns,
    List.length_filterMap_eq_countP]
  refine List.countP_congr fun turn _ => ?_
  simp [Options.succeeded_outcome, Turn.error?]

/-- A report of inputs without details consists of errors. -/
theorem flatMap_diagnostics (quiet : options.verbose = false) (fs : FileSystem)
    (turns : List Turn) :
    (options.outcomes fs turns).flatMap Outcome.diagnostics =
      (options.failedTurns fs turns).map fun failure => "error: " ++ failure.2.message := by
  rw [Options.outcomes, List.flatMap_map, Options.failedTurns, List.map_filterMap]
  simp only [Turn.error?]
  induction turns with
  | nil => rfl
  | cons turn turns ih =>
      rw [List.flatMap_cons, List.filterMap_cons, ih]
      cases h : options.error? fs turn.machine.output turn.input with
      | some error =>
          rw [Options.outcome_of_error h]
          rfl
      | none =>
          obtain ⟨compiled, texts, -⟩ := Options.error?_eq_none_iff.1 h
          have silent : (options.success turn.input compiled).diagnostics = [] := by
            unfold Options.success
            split
            · rfl
            · simp [Outcome.wrote, quiet]
          rw [Options.outcome_of_success texts h, silent]
          rfl

/-- **The report of a run over inputs accounts for them.** -/
theorem IsReady.isAccount (h : IsReady s.files options.destination inputs) :
    IsAccount (options.verdicts inputs s) (.ofOutcomes options.verbose
      (analyzeInputs (m := StateM Machine) options inputs s).1) := by
  have all := (options.verdicts inputs s).length_add_length
  have number : (options.outcomes s.files (turns options s inputs)).length = inputs.length := by
    rw [Options.outcomes, List.length_map, length_turns]
  rw [h.analyzeInputs_fst (.refl _ s.files)]
  exact {
    errors := labelled_error_ofOutcomes options s.files _
    count := by
      rw [labelled_error_ofOutcomes, List.length_map]
      exact all
    lastLine := fun verbose => by
      have successes : (options.verdicts inputs s).successes.length = inputs.length -
          (options.failedTurns s.files (turns options s inputs)).length := Nat.eq_sub_of_add_eq all
      rw [Report.ofOutcomes, if_pos verbose, List.getLast?_concat, summary, failures_outcomes,
        number, successes]
    nothingElse := fun quiet => by
      rw [Report.ofOutcomes, flatMap_diagnostics quiet, quiet]
      exact List.append_nil _
    subtracted := by
      rw [h.analyzeInputs_fst (.refl _ s.files), failures_outcomes, labelled_error_ofOutcomes,
        List.length_map]
    noUnderflow := by
      rw [h.analyzeInputs_fst (.refl _ s.files), ← number]
      exact failures_le_length _ }

/-- The exit code of a report. -/
theorem exitCode_ofOutcomes (verbose : Bool) (outcomes : List Outcome) :
    ((Report.ofOutcomes verbose outcomes).exitCode = 0 ∨
      (Report.ofOutcomes verbose outcomes).exitCode = 1) ∧
    ((Report.ofOutcomes verbose outcomes).exitCode = 0 ↔ failures outcomes = 0) := by
  rw [Report.ofOutcomes]
  split <;> simp [*]

/-- Nothing fails if every input succeeds at its turn. -/
theorem failures_outcomes_eq_zero_iff {turns : List Turn} :
    failures (options.outcomes fs turns) = 0 ↔
      ∀ turn ∈ turns, Succeeds options fs turn.machine.output turn.input := by
  rw [failures, Options.outcomes, List.countP_map, List.countP_eq_zero]
  simp [Options.succeeded_outcome, Options.error?_eq_none_iff]

/-! ### Runs -/

/-- What the report of a run says. -/
structure IsAccounted (options : Options) (s : Machine) (report : Report) : Prop where
  exitCode : report.exitCode = 0 ∨ report.exitCode = 1
  /-- The exit code is zero if there are inputs, the directory of the outputs is there or can be
  made, and every input succeeds at its turn. -/
  success : report.exitCode = 0 ↔ ∃ inputs fs₁, Begins options s.files inputs fs₁ ∧
    ∀ turn ∈ turns options { s with files := fs₁ } inputs,
      Succeeds options fs₁ turn.machine.output turn.input
  /-- Nothing has to be made if the directory of the outputs is there. -/
  existing : ∀ inputs,
    inputsAt (m := StateM FileSystem) options.path s.files = (.ok inputs, s.files) →
      (∀ directory, options.destination.directory? = some directory →
        s.files.find? directory = some .directory) → Begins options s.files inputs s.files
  /-- The directory of the outputs is there once it has been made. -/
  made : ∀ inputs fs₁, Begins options s.files inputs fs₁ → ∀ directory,
    options.destination.directory? = some directory → fs₁.find? directory = some .directory
  /-- The report accounts for every input, in the order of their names. -/
  account : ∀ inputs fs₁, Begins options s.files inputs fs₁ → inputs.Pairwise Path.Precedes ∧
    ∃ verdicts : Verdicts options inputs { s with files := fs₁ }, IsAccount verdicts report
  /-- Inputs succeed and fail when it is their turn, and each has one. -/
  turns : ∀ inputs fs₁, Begins options s.files inputs fs₁ →
    (turns options { s with files := fs₁ } inputs).map Turn.input = inputs ∧
    ∀ turn ∈ turns options { s with files := fs₁ } inputs,
      (Succeeds options fs₁ turn.machine.output turn.input ↔
          (turn.outcome options).succeeded = true) ∧
        ∀ error, FailsWith options fs₁ turn.machine.output turn.input error →
          turn.outcome options = .failed error
  /-- If the path leads to no input, there is one error and nothing else. -/
  unresolved : ∀ error,
    inputsAt (m := StateM FileSystem) options.path s.files = (.error error, s.files) →
      report.diagnostics = ["error: " ++ (options.path.text ++ ": " ++ error.cause)]

/-- The report of a run without inputs. -/
theorem isAccounted_of_unresolved (found : s.files.inputs options.path = .error error) :
    IsAccounted options s ⟨1, ["error: " ++ error.message]⟩ where
  exitCode := Or.inr rfl
  success := by
    refine iff_of_false (by simp) ?_
    rintro ⟨inputs, fs₁, begins, -⟩
    exact not_begins_of_unresolved found begins
  existing _ := begins_of_directory
  made inputs fs₁ begins := absurd begins (not_begins_of_unresolved found)
  account inputs fs₁ begins := absurd begins (not_begins_of_unresolved found)
  turns inputs fs₁ begins := absurd begins (not_begins_of_unresolved found)
  unresolved error' resolved := by
    rw [inputsAt_eq_error_iff, found] at resolved
    obtain rfl := Except.error.inj resolved
    rw [← path_of_inputs found]
    rfl

/-- The report of a run without a directory for its outputs. -/
theorem isAccounted_of_unprepared {failure : SystemError}
    (found : s.files.inputs options.path = .ok inputs)
    (prepared : prepare (m := StateM FileSystem) options.destination s.files =
      (.error failure, fs₁)) :
    IsAccounted options s ⟨1, [fatalMessage failure]⟩ where
  exitCode := Or.inr rfl
  success := by
    refine iff_of_false (by simp) ?_
    rintro ⟨inputs', fs₁', begins, -⟩
    exact not_begins_of_unprepared prepared begins
  existing _ := begins_of_directory
  made inputs fs₁' begins := absurd begins (not_begins_of_unprepared prepared)
  account inputs fs₁' begins := absurd begins (not_begins_of_unprepared prepared)
  turns inputs fs₁' begins := absurd begins (not_begins_of_unprepared prepared)
  unresolved error resolved := by
    rw [inputsAt_eq_error_iff, found] at resolved
    cases resolved

/-- The report of a run over inputs. -/
theorem Begins.isAccounted (h : Begins options s.files inputs fs₁)
    (named : options.destination.IsNamed) :
    IsAccounted options s (.ofOutcomes options.verbose
      (analyzeInputs (m := StateM Machine) options inputs { s with files := fs₁ }).1) where
  exitCode := (exitCode_ofOutcomes options.verbose _).1
  success := by
    have ready : IsReady fs₁ options.destination inputs := h.isReady named
    rw [(exitCode_ofOutcomes options.verbose _).2, ready.analyzeInputs_fst (.refl _ fs₁),
      failures_outcomes_eq_zero_iff]
    constructor
    · exact fun all => ⟨inputs, fs₁, h, all⟩
    · rintro ⟨inputs', fs₁', h', all⟩
      obtain ⟨rfl, rfl⟩ := h.unique h'
      exact all
  existing _ := begins_of_directory
  made inputs' fs₁' h' directory given := h'.find?_directory named given
  account inputs' fs₁' h' := by
    obtain ⟨rfl, rfl⟩ := h.unique h'
    exact ⟨pairwise_precedes_of_inputs (begins_iff.1 h).1, _, IsReady.isAccount (h.isReady named)⟩
  turns inputs' fs₁' h' :=
    ⟨map_input_turns .., fun turn => (h'.isReady named).succeeds_turn_iff (.refl _ fs₁')⟩
  unresolved error resolved := by
    rw [inputsAt_eq_error_iff, (begins_iff.1 h).1] at resolved
    cases resolved

/-- **Exit code, errors and last line account for every input.** -/
theorem execute_isAccounted {arguments : List Bytes}
    (accepted : parseArguments arguments = .ok (.analyze options)) (s : Machine) :
    IsAccounted options s (execute (m := StateM Machine) arguments s).1 := by
  rw [execute_eq_run accepted]
  rcases run_cases options s with ⟨error, found, same⟩ |
    ⟨inputs, error, fs₁, found, prepared, same⟩ | ⟨inputs, fs₁, begins⟩
  · rw [same]
    exact isAccounted_of_unresolved found
  · rw [same]
    exact isAccounted_of_unprepared found prepared
  · rw [begins.run_apply]
    exact begins.isAccounted (isNamed_of_accepted accepted)

/-- Two sources, one of which cannot be compiled. -/
theorem one_of_two_is_accounted :
    parseArguments ["-v", "."] = .ok (.analyze ⟨⟨"."⟩, false, .beside, true⟩) ∧
      IsAccounted ⟨⟨"."⟩, false, .beside, true⟩ twoSources
        (execute (m := StateM Machine) ["-v", "."] twoSources).1 ∧
      (execute (m := StateM Machine) ["-v", "."] twoSources).1.diagnostics =
        ["wrote ./a.xml", "error: ./b.jack: [line 1] expected symbol '\x7d', found end of input",
          "1 of 2 file(s) analyzed"] := by
  have accepted : parseArguments ["-v", "."] =
      .ok (.analyze ⟨⟨"."⟩, false, .beside, true⟩) := by decide +kernel
  exact ⟨accepted, execute_isAccounted accepted twoSources, by decide +kernel⟩

end CommandLine

end JackSyntax
