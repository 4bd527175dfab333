/-
**What is printed and what is written.**

Two runs over the same inputs, one of which prints its outputs and the other writes them beside the
inputs, deal with every input alike until its texts are there.  So the same inputs fail before that,
with the same errors; and the texts of the others are printed and written, the listing before the
tree when they are printed and behind it when they are written.

A print may fail as a write may.  Then the beginning of the texts is out and the input has failed,
but this error is none of reading and compiling.

Main definitions:

* `printing`, `writing` — the options of two runs that differ in where their outputs go;
* `printedText`, `filesOf` — what is to be printed for an input, and the files that are to be
  written;
* `Turn.shown` — what is printed at a turn;
* `Corresponds` — what the two runs do with an input;
* `PrintsInputs`, `PrintsWhatIsWritten` — what they do with inputs, and with a path.

Main results:

* `IsReady.analyzeInputs_printed` — what a run prints is what its turns print;
* `corresponds_outcome` — the two runs correspond at every input;
* `standard_output_is_what_is_written` — **what is printed is what is written otherwise**.
-/

import Mathlib.Data.List.Flatten
import JackSyntax.Proofs.CommandLine.Accounts
import JackSyntax.Proofs.CommandLine.Records
import JackSyntax.Proofs.Parsing.Outputs

set_option relaxedAutoImplicit false
set_option autoImplicit false

namespace JackSyntax.CommandLine

open FileSystem

variable {fs : FileSystem} {s : Machine} {out : StandardOutput} {path : Path}
  {withTokens verbose : Bool} {inputs : List Path} {input : Path} {options : Options}
  {compiled : Compiled} {turn : Turn}

/-! ### Two runs -/

/-- The options of a run that prints its outputs. -/
def printing (path : Path) (withTokens verbose : Bool) : Options :=
  ⟨path, withTokens, .standardOutput, verbose⟩

/-- The options of a run that writes its outputs beside its inputs. -/
def writing (path : Path) (withTokens verbose : Bool) : Options :=
  ⟨path, withTokens, .beside, verbose⟩

/-- What is to be printed for an input: nothing if it cannot be read or compiled, otherwise its
listing, if tokens are listed, and its tree. -/
def printedText (withTokens : Bool) (fs : FileSystem) (input : Path) : String :=
  match (compileFile (m := StateM FileSystem) withTokens input fs).1 with
  | .error _ => ""
  | .ok compiled => compiled.tokens.getD "" ++ compiled.tree

/-- The error of an input that cannot be read or compiled. -/
def refusalOf? (withTokens : Bool) (fs : FileSystem) (input : Path) : Option AnalysisError :=
  match (compileFile (m := StateM FileSystem) withTokens input fs).1 with
  | .error error => some error
  | .ok _ => none

/-- The files that are to be written for an input with a tree and perhaps a listing: the tree under
the stem of the input and the listing under the stem with a `T` behind it, both beside the input. -/
def filesOf (input : Path) (listing? : Option String) (tree : String) : List (Path × ByteArray) :=
  (input.withFileName (bytesOf (input.shownStem ++ ".xml")), tree.toUTF8) ::
    (listing?.map fun listing =>
      (input.withFileName (bytesOf (input.shownStem ++ "T.xml")), listing.toUTF8)).toList

/-- What is printed at a turn. -/
def Turn.shown (options : Options) (turn : Turn) : Bytes :=
  (turn.leaves options).output.printed.drop turn.machine.output.printed.length

/-- What two runs do with an input, of which the first prints and the second writes: what is
printed, the outcomes, and what is written. -/
inductive Corresponds (withTokens : Bool) (fs : FileSystem) (input : Path) :
    Bytes → Outcome → Outcome → List (Path × ByteArray) → Prop where
  /-- The input cannot be read or compiled: nothing is printed or written, and the errors are the
  same. -/
  | failed {error : AnalysisError}
      (refused : compileFile (m := StateM FileSystem) withTokens input fs = (.error error, fs)) :
      Corresponds withTokens fs input [] (.failed error) (.failed error) []
  /-- The texts that are printed, until one cannot be, are written, until one cannot be. -/
  | given {contents : ByteArray} {source tree : String} {listing? : Option String} {shown : Bytes}
      {printed wrote : Outcome} {written : List (Path × ByteArray)}
      (read : fs.read input = .ok contents) (decoded : String.fromUTF8? contents = some source)
      (parsed : parse source = .ok tree)
      (listed : listing? = if withTokens then (tokenListing source).toOption else none)
      (complete : listing?.isSome = withTokens)
      (shownPart : shown <+: bytesOf (listing?.getD "" ++ tree))
      (shownAll : printed.succeeded = true → shown = bytesOf (listing?.getD "" ++ tree))
      (unprinted : printed.succeeded = false → ∃ cause, printed = .failed (.system input cause))
      (writtenPart : written <+: filesOf input listing? tree)
      (writtenAll : wrote.succeeded = true → written = filesOf input listing? tree)
      (unwritten : wrote.succeeded = false → ∃ file ∈ filesOf input listing? tree, ∃ cause,
        wrote = .failed (.system file.1 cause)) :
      Corresponds withTokens fs input shown printed wrote written

/-- What two runs do with their inputs, of which the first prints and the second writes. -/
structure PrintsInputs (path : Path) (withTokens verbose : Bool) (s : Machine)
    (inputs : List Path) : Prop where
  ordered : inputs.Pairwise Path.Precedes
  /-- What is printed consists of what is printed for the inputs, in the order of their names. -/
  printed : (run (m := StateM Machine) (printing path withTokens verbose) s).2.output.printed =
    s.output.printed ++ (turns (printing path withTokens verbose) s inputs).flatMap
      (Turn.shown (printing path withTokens verbose))
  /-- What is written consists of what is written for the inputs. -/
  recorded : record (run (writing path withTokens verbose)) s = inputs.flatMap fun input =>
    record (analyzeInput (writing path withTokens verbose) input) s
  /-- Every input has its turn, at which both runs correspond. -/
  corresponds : (turns (printing path withTokens verbose) s inputs).map Turn.input = inputs ∧
    ∀ turn ∈ turns (printing path withTokens verbose) s inputs,
      Corresponds withTokens s.files turn.input (turn.shown (printing path withTokens verbose))
        (turn.outcome (printing path withTokens verbose))
        (analyzeInput (m := StateM Machine) (writing path withTokens verbose) turn.input s).1
        (record (analyzeInput (writing path withTokens verbose) turn.input) s)
  /-- The errors of both runs are those of the inputs at their turns, in the order of the inputs. -/
  errors : ∀ options ∈ [printing path withTokens verbose, writing path withTokens verbose],
    labelled "error: " (run (m := StateM Machine) options s).1.diagnostics =
      (turns options s inputs).flatMap fun turn =>
        labelled "error: " (turn.outcome options).diagnostics
  /-- Both runs report the inputs that cannot be read or compiled, in the order of their names. -/
  refusals : ∀ options ∈ [printing path withTokens verbose, writing path withTokens verbose],
    ((inputs.filterMap (refusalOf? withTokens s.files)).map AnalysisError.message).Sublist
      (labelled "error: " (run (m := StateM Machine) options s).1.diagnostics)
  /-- If no print fails, the texts of all inputs that can be read and compiled are printed, and the
  others are the only errors. -/
  takesAll : s.output.TakesAll →
    (run (m := StateM Machine) (printing path withTokens verbose) s).2.output.printed =
        s.output.printed ++
          inputs.flatMap (fun input => bytesOf (printedText withTokens s.files input)) ∧
      labelled "error: "
          (run (m := StateM Machine) (printing path withTokens verbose) s).1.diagnostics =
        (inputs.filterMap (refusalOf? withTokens s.files)).map AnalysisError.message

/-- What two runs do with a path, of which the first prints and the second writes. -/
structure PrintsWhatIsWritten (path : Path) (withTokens verbose : Bool) (s : Machine) : Prop where
  /-- Where outputs are printed, no file is changed. -/
  unchanged : (run (m := StateM Machine) (printing path withTokens verbose) s).2.files = s.files
  inputs : ∀ inputs, inputsAt (m := StateM FileSystem) path s.files = (.ok inputs, s.files) →
    PrintsInputs path withTokens verbose s inputs
  /-- If the path leads to no input, both runs have the same report, and nothing is printed or
  written. -/
  unresolved : ∀ error, inputsAt (m := StateM FileSystem) path s.files = (.error error, s.files) →
    run (m := StateM Machine) (printing path withTokens verbose) s =
        (⟨1, ["error: " ++ error.message]⟩, s) ∧
      run (m := StateM Machine) (writing path withTokens verbose) s =
        (⟨1, ["error: " ++ error.message]⟩, s) ∧
      record (run (writing path withTokens verbose)) s = []

/-! ### What is printed at a turn -/

/-- What is printed at the turn of a ready input. -/
theorem IsReady.shown_turn (h : IsReady fs options.destination inputs)
    (written : fs.HasWritten s.files) (inside : turn ∈ turns options s inputs) :
    turn.shown options = turn.machine.output.share (options.prints fs turn.input) := by
  rw [Turn.shown, Turn.leaves,
    h.analyzeInput_apply (Turn.input_mem inside) (h.hasWritten_turn written inside)]
  rfl

/-- What a run prints is what its turns print. -/
theorem IsReady.analyzeInputs_printed (h : IsReady fs options.destination inputs)
    (written : fs.HasWritten s.files) :
    (analyzeInputs (m := StateM Machine) options inputs s).2.output.printed =
      s.output.printed ++ (turns options s inputs).flatMap (Turn.shown options) := by
  induction inputs generalizing s with
  | nil => exact (List.append_nil _).symm
  | cons input inputs ih =>
      have next := h.hasWritten_analyzeInput List.mem_cons_self written
      have first : Turn.shown options ⟨input, s⟩ = s.output.share (options.prints fs input) :=
        h.shown_turn written List.mem_cons_self
      rw [analyzeInputs_cons_apply]
      dsimp only
      rw [ih (h.mono (List.subset_cons_self _ _)) next, turns, List.flatMap_cons, first,
        ← List.append_assoc, ← StandardOutput.printed_printAll,
        h.analyzeInput_apply List.mem_cons_self written]

theorem flatMap_bytesOf_texts (compiled : Compiled) :
    compiled.texts.flatMap bytesOf = bytesOf (compiled.tokens.getD "" ++ compiled.tree) := by
  cases listed : compiled.tokens <;> simp [Compiled.texts, listed]

/-- The texts of an input that is printed are its listing and its tree. -/
theorem flatMap_prints_printing (path : Path) (withTokens verbose : Bool) (fs : FileSystem)
    (input : Path) :
    ((printing path withTokens verbose).prints fs input).flatMap bytesOf =
      bytesOf (printedText withTokens fs input) := by
  rw [Options.prints, printedText, compileFile_apply]
  change (match fs.compiled withTokens input with
    | .error _ => []
    | .ok compiled => (printing path withTokens verbose).toPrint compiled).flatMap bytesOf = _
  cases fs.compiled withTokens input with
  | error error => rfl
  | ok compiled => exact flatMap_bytesOf_texts compiled

/-! ### One input -/

/-- An input that is printed fails if it cannot be compiled or a print fails. -/
theorem error?_printing (texts : GivesTexts (printing path withTokens verbose) fs input compiled)
    (out : StandardOutput) : (printing path withTokens verbose).error? fs out input =
      printRefusal? input out compiled.texts := by
  rw [Options.error?_of_givesTexts texts, Options.toWrite_of_printed rfl,
    Options.toPrint_of_printed rfl, List.findSome?_nil, Option.or_none]

/-- All texts of an input that succeeds come out. -/
theorem share_of_printed (texts : GivesTexts (printing path withTokens verbose) fs input compiled)
    (success : ((printing path withTokens verbose).outcome fs out input).succeeded = true) :
    out.share compiled.texts = compiled.texts.flatMap bytesOf := by
  rw [Options.succeeded_outcome, Option.isNone_iff_eq_none, error?_printing texts] at success
  obtain ⟨last, printed⟩ := printRefusal?_eq_none_iff.1 success
  exact printed.share_eq

/-- An input of which the texts cannot be printed has failed with this error. -/
theorem exists_cause_of_not_printed
    (texts : GivesTexts (printing path withTokens verbose) fs input compiled)
    (failure : ((printing path withTokens verbose).outcome fs out input).succeeded = false) :
    ∃ cause, (printing path withTokens verbose).outcome fs out input =
      .failed (.system input cause) := by
  rw [Options.succeeded_outcome] at failure
  obtain ⟨error, fails⟩ := Option.isSome_iff_exists.1 (by simpa using failure)
  rw [Options.outcome_of_error fails]
  rw [error?_printing texts] at fails
  obtain ⟨cause, last, -, rfl⟩ := printRefusal?_eq_some_iff.1 fails
  exact ⟨cause, rfl⟩

theorem outputPath_beside (input : Path) (suffix : String) : outputPath input none suffix =
    input.withFileName (bytesOf (input.shownStem ++ (suffix ++ ".xml"))) := by
  have named : outputPath input none suffix =
      input.withFileName (outputName input.shownStem suffix) := rfl
  rw [named, outputName_eq, String.append_assoc]

/-- The outputs of an input are its files. -/
theorem map_asRecorded_outputs (input : Path) (compiled : Compiled) :
    (compiled.outputs input none).map asRecorded =
      filesOf input compiled.tokens compiled.tree := by
  have tree := outputPath_beside input ""
  have listing := outputPath_beside input "T"
  rw [show "" ++ ".xml" = ".xml" by decide] at tree
  rw [show "T" ++ ".xml" = "T.xml" by decide] at listing
  rw [Compiled.outputs, filesOf, List.map_cons, asRecorded, tree]
  cases compiled.tokens with
  | none => rfl
  | some text =>
      rw [Option.map_some, Option.map_some, Option.toList_some, Option.toList_some,
        List.map_singleton, asRecorded, listing]

/-- The files of an input are written until one cannot be. -/
theorem writes_writing_isPrefix
    (texts : GivesTexts (writing path withTokens verbose) fs input compiled) :
    ((writing path withTokens verbose).writes fs input).map asRecorded <+:
      filesOf input compiled.tokens compiled.tree := by
  rw [Options.writes_of_givesTexts texts, ← map_asRecorded_outputs]
  exact (List.takeWhile_prefix _).map asRecorded

/-- All files of an input that succeeds are written. -/
theorem writes_of_written (texts : GivesTexts (writing path withTokens verbose) fs input compiled)
    (success : ((writing path withTokens verbose).outcome fs out input).succeeded = true) :
    ((writing path withTokens verbose).writes fs input).map asRecorded =
      filesOf input compiled.tokens compiled.tree := by
  rw [Options.succeeded_outcome, Option.isNone_iff_eq_none] at success
  rw [Options.writes_of_success texts success, ← map_asRecorded_outputs]
  rfl

/-- An input of which a file cannot be written has failed with this error. -/
theorem exists_cause_of_not_written
    (texts : GivesTexts (writing path withTokens verbose) fs input compiled)
    (failure : ((writing path withTokens verbose).outcome fs out input).succeeded = false) :
    ∃ file ∈ filesOf input compiled.tokens compiled.tree, ∃ cause,
      (writing path withTokens verbose).outcome fs out input = .failed (.system file.1 cause) := by
  rw [Options.succeeded_outcome] at failure
  obtain ⟨error, fails⟩ := Option.isSome_iff_exists.1 (by simpa using failure)
  rw [Options.outcome_of_error fails]
  have toFiles : (writing path withTokens verbose).destination ≠ .standardOutput := nofun
  rw [Options.error?_of_toFiles toFiles texts] at fails
  obtain ⟨output, inside, refused⟩ := List.exists_of_findSome?_eq_some fails
  obtain ⟨cause, -, rfl⟩ := refusal?_eq_some_iff.1 refused
  rw [← map_asRecorded_outputs]
  exact ⟨asRecorded output, List.mem_map_of_mem inside, cause, rfl⟩

/-- The texts that an input gives are those of its source. -/
theorem exists_source_of_compiled (texts : fs.compiled withTokens input = .ok compiled) :
    ∃ contents source, fs.read input = .ok contents ∧ String.fromUTF8? contents = some source ∧
      parse source = .ok compiled.tree ∧
      compiled.tokens = if withTokens then (tokenListing source).toOption else none := by
  have given : GivesTexts (printing input withTokens false) fs input compiled :=
    compiled_eq_ok_iff.1 texts
  obtain ⟨contents, source, read, decoded, success⟩ := given
  refine ⟨contents, source, read, decoded, ?_⟩
  have whole := success.symm.trans (compile_eq_map withTokens source)
  cases parsed : parse source with
  | error error =>
      rw [parsed] at whole
      cases whole
  | ok tree =>
      rw [parsed] at whole
      obtain rfl := Except.ok.inj whole
      exact ⟨rfl, rfl⟩

/-- The two runs correspond at every input. -/
theorem corresponds_outcome (path : Path) (withTokens verbose : Bool) (fs : FileSystem)
    (out out' : StandardOutput) (input : Path) :
    Corresponds withTokens fs input
      (out.share ((printing path withTokens verbose).prints fs input))
      ((printing path withTokens verbose).outcome fs out input)
      ((writing path withTokens verbose).outcome fs out' input)
      (((writing path withTokens verbose).writes fs input).map asRecorded) := by
  cases texts : fs.compiled withTokens input with
  | error error =>
      have nothing : (printing path withTokens verbose).prints fs input = [] := by
        rw [Options.prints, show fs.compiled (printing path withTokens verbose).withTokens input = _
          from texts]
      rw [nothing, Options.writes_of_not_compiled texts,
        Options.outcome_of_error (Options.error?_of_not_compiled texts out),
        Options.outcome_of_error (Options.error?_of_not_compiled texts out'),
        StandardOutput.Prints.nil.share_eq]
      exact .failed (by rw [compileFile_apply, texts])
  | ok compiled =>
      have toPrint : GivesTexts (printing path withTokens verbose) fs input compiled :=
        compiled_eq_ok_iff.1 texts
      have toWrite : GivesTexts (writing path withTokens verbose) fs input compiled :=
        compiled_eq_ok_iff.1 texts
      have prints : (printing path withTokens verbose).prints fs input = compiled.texts :=
        Options.prints_of_givesTexts toPrint
      obtain ⟨contents, source, read, decoded, parsed, listed⟩ := exists_source_of_compiled texts
      rw [prints]
      refine .given read decoded parsed listed (isSome_tokens_of_compiled texts) ?_ ?_
        (exists_cause_of_not_printed toPrint) (writes_writing_isPrefix toWrite)
        (writes_of_written toWrite) (exists_cause_of_not_written toWrite)
      · rw [← flatMap_bytesOf_texts]
        exact out.share_isPrefix compiled.texts
      · rw [← flatMap_bytesOf_texts]
        exact share_of_printed toPrint

/-! ### Errors of reading and compiling -/

theorem refusalOf?_eq (withTokens : Bool) (fs : FileSystem) (input : Path) :
    refusalOf? withTokens fs input =
      match fs.compiled withTokens input with
      | .error error => some error
      | .ok _ => none := by
  rw [refusalOf?, compileFile_apply]

/-- An input that cannot be read or compiled is reported as such. -/
theorem refusalOf?_sublist (options : Options) (fs : FileSystem) (out : StandardOutput)
    (input : Path) :
    ((refusalOf? options.withTokens fs input).map AnalysisError.message).toList.Sublist
      (labelled "error: " (options.outcome fs out input).diagnostics) := by
  rw [labelled_error_outcome, refusalOf?_eq]
  cases texts : fs.compiled options.withTokens input with
  | error error => rw [Options.error?_of_not_compiled texts]
  | ok compiled => exact List.nil_sublist _

theorem map_filterMap_refusalOf? (withTokens : Bool) (fs : FileSystem) (inputs : List Path) :
    (inputs.filterMap (refusalOf? withTokens fs)).map AnalysisError.message =
      inputs.flatMap fun input =>
        ((refusalOf? withTokens fs input).map AnalysisError.message).toList := by
  induction inputs with
  | nil => rfl
  | cons input inputs ih =>
      rw [List.filterMap_cons, List.flatMap_cons, ← ih]
      cases refusalOf? withTokens fs input <;> rfl

/-! ### Runs -/

/-- The errors of a run are those of its inputs at their turns. -/
theorem labelled_error_run {fs₁ : FileSystem} (begins : Begins options s.files inputs fs₁) :
    labelled "error: " (run (m := StateM Machine) options s).1.diagnostics =
      (turns options { s with files := fs₁ } inputs).flatMap fun turn =>
        labelled "error: " (turn.outcome options).diagnostics := by
  rw [begins.run_apply, labelled_ofOutcomes (c := 'e') (by decide) (by decide), analyzeInputs_fst,
    List.flatMap_map]

/-- Inputs that cannot be read or compiled are reported as such, in the order of the inputs. -/
theorem refusals_sublist (options : Options) (begins : Begins options s.files inputs s.files)
    (ready : IsReady s.files options.destination inputs) :
    ((inputs.filterMap (refusalOf? options.withTokens s.files)).map AnalysisError.message).Sublist
      (labelled "error: " (run (m := StateM Machine) options s).1.diagnostics) := by
  rw [labelled_error_run begins, map_filterMap_refusalOf?]
  conv => arg 1; rw [← map_input_turns options s inputs, List.flatMap_map]
  refine List.Sublist.flatMap_right _ fun turn inside => ?_
  rw [ready.outcome_turn (.refl _ s.files) inside]
  exact refusalOf?_sublist options s.files _ _

/-- If no print fails, the texts of all inputs are printed that can be read and compiled, and there
are no other errors. -/
theorem printed_of_takesAll
    (begins : Begins (printing path withTokens verbose) s.files inputs s.files)
    (takes : s.output.TakesAll) :
    (run (m := StateM Machine) (printing path withTokens verbose) s).2.output.printed =
        s.output.printed ++
          inputs.flatMap (fun input => bytesOf (printedText withTokens s.files input)) ∧
      labelled "error: "
          (run (m := StateM Machine) (printing path withTokens verbose) s).1.diagnostics =
        (inputs.filterMap (refusalOf? withTokens s.files)).map AnalysisError.message := by
  have ready : IsReady s.files (printing path withTokens verbose).destination inputs :=
    begins.isReady nofun
  have reliable : IsReliable (printing path withTokens verbose) s.output := Or.inr takes
  have next (turn : Turn) (inside : turn ∈ turns (printing path withTokens verbose) s inputs) :
      turn.machine.output.TakesAll :=
    (ready.isReliable_turn (.refl _ s.files) reliable inside).resolve_left fun toFiles =>
      toFiles rfl
  constructor
  · rw [begins.run_apply, ready.analyzeInputs_printed (.refl _ s.files)]
    conv_rhs => rw [← map_input_turns (printing path withTokens verbose) s inputs,
      List.flatMap_map]
    refine congrArg _ (List.flatMap_congr fun turn inside => ?_)
    obtain ⟨last, printed, -⟩ := (next turn inside).printAll
      ((printing path withTokens verbose).prints s.files turn.input)
    rw [ready.shown_turn (.refl _ s.files) inside,
      (StandardOutput.printAll_eq_ok_iff.1 printed).share_eq, flatMap_prints_printing]
  · rw [labelled_error_run begins, map_filterMap_refusalOf?]
    conv_rhs => rw [← map_input_turns (printing path withTokens verbose) s inputs,
      List.flatMap_map]
    refine List.flatMap_congr fun turn inside => ?_
    rw [ready.outcome_turn (.refl _ s.files) inside, labelled_error_outcome, refusalOf?_eq]
    cases texts : s.files.compiled withTokens turn.input with
    | error error => rw [Options.error?_of_not_compiled texts]
    | ok compiled =>
        have toPrint : GivesTexts (printing path withTokens verbose) s.files turn.input compiled :=
          compiled_eq_ok_iff.1 texts
        rw [error?_printing toPrint]
        obtain ⟨last, printed, -⟩ := (next turn inside).printAll compiled.texts
        rw [printRefusal?_eq_none_iff.2 ⟨last, StandardOutput.printAll_eq_ok_iff.1 printed⟩]

/-- What the two runs do with their inputs. -/
theorem printsInputs
    (found : inputsAt (m := StateM FileSystem) path s.files = (.ok inputs, s.files)) :
    PrintsInputs path withTokens verbose s inputs := by
  have toPrint : Begins (printing path withTokens verbose) s.files inputs s.files := ⟨found, rfl⟩
  have toWrite : Begins (writing path withTokens verbose) s.files inputs s.files := ⟨found, rfl⟩
  have printable : IsReady s.files (printing path withTokens verbose).destination inputs :=
    toPrint.isReady nofun
  have writable : IsReady s.files (writing path withTokens verbose).destination inputs :=
    toWrite.isReady nofun
  have recorded (input : Path) (inside : input ∈ inputs) :
      record (analyzeInput (writing path withTokens verbose) input) s =
        ((writing path withTokens verbose).writes s.files input).map asRecorded := by
    obtain ⟨stem, d, D, source, ready⟩ := writable input inside
    exact record_analyzeInput source ready (.refl _ s.files)
  refine ⟨pairwise_precedes_of_inputs (begins_iff.1 toPrint).1, ?_, ?_,
    ⟨map_input_turns .., fun turn inside => ?_⟩, ?_, ?_, printed_of_takesAll toPrint⟩
  · rw [toPrint.run_apply, printable.analyzeInputs_printed (.refl _ s.files)]
  · rw [toWrite.record_run nofun]
    exact List.flatMap_congr fun input inside => (recorded input inside).symm
  · rw [printable.shown_turn (.refl _ s.files) inside,
      printable.outcome_turn (.refl _ s.files) inside, recorded turn.input (Turn.input_mem inside),
      writable.analyzeInput_apply (Turn.input_mem inside) (.refl _ s.files)]
    exact corresponds_outcome path withTokens verbose s.files _ _ turn.input
  · intro options either
    rcases List.mem_pair.1 either with rfl | rfl
    · exact labelled_error_run toPrint
    · exact labelled_error_run toWrite
  · intro options either
    rcases List.mem_pair.1 either with rfl | rfl
    · exact refusals_sublist (printing path withTokens verbose) toPrint printable
    · exact refusals_sublist (writing path withTokens verbose) toWrite writable

/-- The listing of the one source is printed and its tree is not, since the second print fails, and
the other source cannot be compiled. -/
example :
    (run (m := StateM Machine) (printing ⟨"."⟩ true false) { twoSources with
      output := ⟨[], [none, some ⟨0, .other 28 "No space left on device"⟩]⟩ }).1 =
      ⟨1, ["error: ./a.jack: No space left on device (os error 28)",
        "error: ./b.jack: [line 1] expected symbol '\x7d', found end of input"]⟩ := by
  decide +kernel

end JackSyntax.CommandLine
