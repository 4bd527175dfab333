/-
**Which files are announced.**

A detailed report announces the files of an input once all of them have been written.  So a file is
announced only if it has been written, and every file that has been written is announced except the
tree of an input that is half written: there the error takes the place of the announcement.

Main definitions:

* `AnnouncesInputs` — what a report announces of the files that inputs write;
* `AnnouncesWrites` — what it announces of those that a run writes.

Main results:

* `labelled_wrote_of_whole`, `labelled_wrote_of_half` — what is announced for one input;
* `flatMap_eq_flatMap_iff_of_sublist` — nothing is left out of a list if nothing is left out of
  its parts;
* `wrote_lines_announce_whole_inputs` — **a detailed report announces the files of every input that
  is not half written**.
-/

import Mathlib.Data.List.Flatten
import JackSyntax.Proofs.CommandLine.Accounts
import JackSyntax.Proofs.CommandLine.Records

set_option relaxedAutoImplicit false
set_option autoImplicit false

namespace JackSyntax

/-! ### Parts of lists -/

/-- Nothing is left out of a list if nothing is left out of its parts. -/
theorem flatMap_eq_flatMap_iff_of_sublist {α β : Type} {as : List α} {f g : α → List β}
    (part : ∀ a ∈ as, (f a).Sublist (g a)) :
    as.flatMap f = as.flatMap g ↔ ∀ a ∈ as, f a = g a := by
  refine ⟨fun same => ?_, List.flatMap_congr⟩
  induction as with
  | nil => exact nofun
  | cons a as ih =>
      have first := part a List.mem_cons_self
      have parts : ∀ b ∈ as, (f b).Sublist (g b) := fun b inside =>
        part b (List.mem_cons_of_mem _ inside)
      rw [List.flatMap_cons, List.flatMap_cons] at same
      have lengths := congrArg List.length same
      rw [List.length_append, List.length_append] at lengths
      have shorter := (List.Sublist.flatMap_right as parts).length_le
      have here : f a = g a := first.eq_of_length (by have := first.length_le; omega)
      rw [here, List.append_cancel_left_eq] at same
      rintro b inside
      rcases List.mem_cons.1 inside with rfl | inside
      · exact here
      · exact ih parts same b inside

namespace CommandLine

open FileSystem

variable {fs fs₁ : FileSystem} {s : Machine} {options : Options} {inputs : List Path}
  {input : Path} {report : Report} {written : List (Path × ByteArray)}

/-! ### What a report announces -/

/-- What a report announces of the files that inputs write, once they are ready. -/
structure AnnouncesInputs (options : Options) (inputs : List Path) (s : Machine)
    (report : Report) (written : List (Path × ByteArray)) : Prop where
  /-- The announcements are those of the inputs, one input after the other. -/
  reported : labelled "wrote " report.diagnostics = inputs.flatMap fun input =>
    labelled "wrote " (analyzeInput (m := StateM Machine) options input s).1.diagnostics
  /-- The files that are written are those of the inputs, one input after the other. -/
  recorded : written = inputs.flatMap fun input => record (analyzeInput options input) s
  /-- Every file of an input is announced, unless the input is half written. -/
  whole : ∀ input ∈ inputs, ¬ IsHalfWritten options s.files input →
    labelled "wrote " (analyzeInput (m := StateM Machine) options input s).1.diagnostics =
      (record (analyzeInput options input) s).map fun file => file.1.text
  /-- The tree of an input that is half written is written and not announced. -/
  half : ∀ input ∈ inputs, IsHalfWritten options s.files input →
    labelled "wrote " (analyzeInput (m := StateM Machine) options input s).1.diagnostics = [] ∧
      ∃ compiled, GivesTexts options s.files input compiled ∧
        record (analyzeInput options input) s =
          [(outputPath input options.destination.directory? "", compiled.tree.toUTF8)]

/-- What a report announces of the files that a run writes. -/
structure AnnouncesWrites (options : Options) (s : Machine) (report : Report)
    (written : List (Path × ByteArray)) : Prop where
  /-- Only files that are written are announced, each as often as it is written at most. -/
  sublist : (labelled "wrote " report.diagnostics).Sublist (written.map fun file => file.1.text)
  /-- Every file is announced that is not the tree of an input that is half written. -/
  inputs : ∀ inputs fs₁, Begins options s.files inputs fs₁ →
    AnnouncesInputs options inputs { s with files := fs₁ } report written
  /-- All files are announced if no input is half written. -/
  exact_iff : labelled "wrote " report.diagnostics = (written.map fun file => file.1.text) ↔
    ∀ inputs fs₁, Begins options s.files inputs fs₁ → ∀ input ∈ inputs,
      ¬ IsHalfWritten options fs₁ input
  /-- No file is written without inputs or without a directory for the outputs. -/
  nothing : (∀ inputs fs₁, ¬ Begins options s.files inputs fs₁) → written = []

/-! ### One input -/

/-- The paths that are announced for an input that succeeds. -/
theorem labelled_wrote_success (verbose : options.verbose = true) (input : Path)
    (compiled : Compiled) :
    labelled "wrote " (options.success input compiled).diagnostics =
      (options.toWrite input compiled).map fun output => output.1.text := by
  by_cases printed : options.destination = .standardOutput
  · rw [Options.toWrite_of_printed printed, Options.success, printed]
    rfl
  · have lines := labelled_map "wrote "
      ((options.toWrite input compiled).map fun output => output.1.text)
    rw [List.map_map] at lines
    rw [Options.success_of_toFiles printed, Outcome.wrote, if_pos verbose, List.map_map]
    exact lines

/-- Nothing is announced for an input that fails. -/
theorem labelled_wrote_failed (error : AnalysisError) :
    labelled "wrote " (Outcome.failed error).diagnostics = [] := by
  refine labelled_eq_nil (c := 'w') (by decide) fun line inside => ?_
  obtain rfl := List.mem_singleton.1 inside
  simp

/-- The outputs that are written for an input are announced, unless it is half written. -/
theorem labelled_wrote_of_whole (verbose : options.verbose = true)
    (whole : ¬ IsHalfWritten options fs input) (out : StandardOutput) :
    labelled "wrote " (options.outcome fs out input).diagnostics =
      (options.writes fs input).map fun output => output.1.text := by
  cases h : options.error? fs out input with
  | none =>
      obtain ⟨compiled, texts, -⟩ := Options.error?_eq_none_iff.1 h
      rw [Options.outcome_of_success texts h, labelled_wrote_success verbose,
        Options.writes_of_success texts h]
  | some error =>
      rw [Options.outcome_of_error h, labelled_wrote_failed, Options.writes_of_error h whole,
        List.map_nil]

/-- Nothing is announced for an input that is half written. -/
theorem labelled_wrote_of_half (half : IsHalfWritten options fs input) (out : StandardOutput) :
    labelled "wrote " (options.outcome fs out input).diagnostics = [] := by
  obtain ⟨compiled, cause, -, -, failed, -⟩ := half.exists_error out
  rw [Options.outcome_of_error failed, labelled_wrote_failed]

/-- What is announced for an input does not depend on the standard output. -/
theorem labelled_wrote_congr (verbose : options.verbose = true) (out out' : StandardOutput) :
    labelled "wrote " (options.outcome fs out input).diagnostics =
      labelled "wrote " (options.outcome fs out' input).diagnostics := by
  by_cases half : IsHalfWritten options fs input
  · rw [labelled_wrote_of_half half, labelled_wrote_of_half half]
  · rw [labelled_wrote_of_whole verbose half, labelled_wrote_of_whole verbose half]

theorem map_text_asRecorded (outputs : List (Path × String)) :
    ((outputs.map asRecorded).map fun file => file.1.text) =
      outputs.map fun output => output.1.text := List.map_map

/-! ### All inputs -/

/-- The report of a run over ready inputs announces what they write. -/
theorem IsReady.announcesInputs (ready : IsReady s.files options.destination inputs)
    (verbose : options.verbose = true) :
    AnnouncesInputs options inputs s
      (.ofOutcomes options.verbose (analyzeInputs (m := StateM Machine) options inputs s).1)
      (inputs.flatMap fun input => (options.writes s.files input).map asRecorded) := by
  have applied : ∀ input ∈ inputs,
      (analyzeInput (m := StateM Machine) options input s).1 =
          options.outcome s.files s.output input ∧
        record (analyzeInput options input) s = (options.writes s.files input).map asRecorded := by
    intro input inside
    obtain ⟨stem, d, D, source, entered⟩ := ready input inside
    exact ⟨congrArg Prod.fst (ready.analyzeInput_apply inside (.refl _ s.files)),
      record_analyzeInput source entered (.refl _ s.files)⟩
  refine ⟨?_, ?_, fun input inside whole => ?_, fun input inside half => ?_⟩
  · rw [labelled_ofOutcomes (c := 'w') (by decide) (by decide),
      ready.analyzeInputs_fst (.refl _ s.files), Options.outcomes, List.flatMap_map]
    conv_rhs => rw [← map_input_turns options s inputs, List.flatMap_map]
    refine List.flatMap_congr fun turn inside => ?_
    rw [(applied turn.input (Turn.input_mem inside)).1]
    exact labelled_wrote_congr verbose _ _
  · exact List.flatMap_congr fun input inside => (applied input inside).2.symm
  · rw [(applied input inside).1, (applied input inside).2, map_text_asRecorded,
      labelled_wrote_of_whole verbose whole]
  · obtain ⟨compiled, cause, texts, -, -, writes⟩ := half.exists_error s.output
    rw [(applied input inside).1, (applied input inside).2, labelled_wrote_of_half half, writes]
    exact ⟨rfl, compiled, texts, rfl⟩

/-! ### Runs -/

/-- Announcements and files, input by input. -/
theorem AnnouncesInputs.sublist_and_exact_iff
    (h : AnnouncesInputs options inputs s report written) :
    (labelled "wrote " report.diagnostics).Sublist (written.map fun file => file.1.text) ∧
      (labelled "wrote " report.diagnostics = (written.map fun file => file.1.text) ↔
        ∀ input ∈ inputs, ¬ IsHalfWritten options s.files input) := by
  have part : ∀ input ∈ inputs,
      (labelled "wrote "
        (analyzeInput (m := StateM Machine) options input s).1.diagnostics).Sublist
          ((record (analyzeInput options input) s).map fun file => file.1.text) := by
    intro input inside
    by_cases half : IsHalfWritten options s.files input
    · rw [(h.half input inside half).1]
      exact List.nil_sublist _
    · rw [h.whole input inside half]
  rw [h.reported, h.recorded, List.map_flatMap, flatMap_eq_flatMap_iff_of_sublist part]
  refine ⟨List.Sublist.flatMap_right inputs part, forall₂_congr fun input inside => ?_⟩
  constructor
  · intro same half
    obtain ⟨silent, compiled, -, files⟩ := h.half input inside half
    rw [silent, files] at same
    cases same
  · exact h.whole input inside

/-- Where nothing is written, nothing is announced. -/
theorem announcesWrites_of_not_begins (silent : labelled "wrote " report.diagnostics = [])
    (never : ∀ inputs fs₁, ¬ Begins options s.files inputs fs₁) :
    AnnouncesWrites options s report [] where
  sublist := by
    rw [silent]
    exact List.nil_sublist _
  inputs inputs fs₁ begins := absurd begins (never inputs fs₁)
  exact_iff := iff_of_true silent fun inputs fs₁ begins => absurd begins (never inputs fs₁)
  nothing _ := rfl

theorem Begins.announcesWrites (h : Begins options s.files inputs fs₁)
    (announced : AnnouncesInputs options inputs { s with files := fs₁ } report written) :
    AnnouncesWrites options s report written where
  sublist := announced.sublist_and_exact_iff.1
  inputs inputs' fs₁' h' := by
    obtain ⟨rfl, rfl⟩ := h.unique h'
    exact announced
  exact_iff := by
    rw [announced.sublist_and_exact_iff.2]
    constructor
    · intro whole inputs' fs₁' h'
      obtain ⟨rfl, rfl⟩ := h.unique h'
      exact whole
    · exact fun whole => whole inputs fs₁ h
  nothing never := absurd h (never inputs fs₁)

/-- **A detailed report announces every file that is written, except the trees of inputs that are
half written**, and no other file. -/
theorem wrote_lines_announce_whole_inputs {arguments : List Bytes}
    (accepted : parseArguments arguments = .ok (.analyze options))
    (verbose : options.verbose = true) (s : Machine) :
    ∃ written,
      execute (m := StateM Recorded) arguments ⟨s, []⟩ =
        ((execute (m := StateM Machine) arguments s).1,
          ⟨(execute (m := StateM Machine) arguments s).2, written⟩) ∧
      AnnouncesWrites options s (execute (m := StateM Machine) arguments s).1 written := by
  refine ⟨_, (tracks_execute arguments).apply s, ?_⟩
  rw [execute_eq_run accepted, execute_eq_run accepted]
  rcases run_cases options s with ⟨error, found, same⟩ |
    ⟨inputs, error, fs₁, found, prepared, same⟩ | ⟨inputs, fs₁, begins⟩
  · have nothing : record (run options) s = [] := by rw [record_run, found]
    rw [same, nothing]
    exact announcesWrites_of_not_begins (labelled_wrote_failed error) fun _ _ =>
      not_begins_of_unresolved found
  · have nothing : record (run options) s = [] := by
      rw [record_run, found]
      dsimp only
      rw [prepared]
    rw [same, nothing]
    refine announcesWrites_of_not_begins ?_ fun _ _ => not_begins_of_unprepared prepared
    refine labelled_eq_nil (c := 'w') (by decide) fun line inside => ?_
    obtain rfl := List.mem_singleton.1 inside
    simp [fatalMessage]
  · have named := isNamed_of_accepted accepted
    rw [begins.run_apply, begins.record_run named]
    exact begins.announcesWrites (IsReady.announcesInputs (begins.isReady named) verbose)

/-- Both outputs of a source are announced, and a source that cannot be compiled has none. -/
theorem tree_and_listing_are_announced :
    parseArguments ["-t", "-v", "."] = .ok (.analyze ⟨⟨"."⟩, true, .beside, true⟩) ∧
      AnnouncesWrites ⟨⟨"."⟩, true, .beside, true⟩ twoSources
        (execute (m := StateM Machine) ["-t", "-v", "."] twoSources).1
        (record (execute ["-t", "-v", "."]) twoSources) ∧
      labelled "wrote " (execute (m := StateM Machine) ["-t", "-v", "."] twoSources).1.diagnostics =
        ["./a.xml", "./aT.xml"] := by
  have accepted : parseArguments ["-t", "-v", "."] =
      .ok (.analyze ⟨⟨"."⟩, true, .beside, true⟩) := by decide +kernel
  obtain ⟨written, same, announces⟩ := wrote_lines_announce_whole_inputs accepted rfl twoSources
  obtain rfl : record (execute ["-t", "-v", "."]) twoSources = written :=
    congrArg (fun result => result.2.written) same
  exact ⟨accepted, announces, by decide +kernel⟩

/-- A tree is written and not announced, since the listing behind it cannot be written. -/
theorem tree_without_listing_is_not_announced :
    parseArguments ["-t", "-v", "."] = .ok (.analyze ⟨⟨"."⟩, true, .beside, true⟩) ∧
      (execute (m := StateM Machine) ["-t", "-v", "."] blockedListing).1.diagnostics =
        ["error: ./AT.xml: Is a directory (os error 21)", "0 of 1 file(s) analyzed"] ∧
      labelled "wrote "
        (execute (m := StateM Machine) ["-t", "-v", "."] blockedListing).1.diagnostics = [] ∧
      (record (execute ["-t", "-v", "."]) blockedListing).map Prod.fst = [⟨"./A.xml"⟩] := by
  refine ⟨?_, ?_, ?_, ?_⟩ <;> decide +kernel

end CommandLine

end JackSyntax
