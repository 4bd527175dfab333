/-
**What failed inputs leave behind.**

Nothing is written for an input before both of its texts are there, so an input that cannot be read
or compiled leaves nothing.  If its tree cannot be written, nothing else is tried.  But the tree
stays if the listing behind it cannot be written: then the input has failed, and has left its tree.
An input whose texts cannot be printed leaves no file.

Main definitions:

* `LeavesAtMostTrees` — what the failed inputs of a run leave.

Main results:

* `failed_inputs_leave_at_most_a_tree` — **a failed input leaves nothing unless it is half
  written**.
-/

import JackSyntax.Proofs.CommandLine.Footprint

set_option relaxedAutoImplicit false
set_option autoImplicit false

namespace JackSyntax.CommandLine

open FileSystem

variable {fs fs₁ : FileSystem} {s : Machine} {out : StandardOutput} {options : Options}
  {inputs : List Path} {input : Path} {stem : Bytes} {d D : Location}

/-- What the failed inputs of a run leave, once the directory of the outputs is made. -/
structure LeavesAtMostTrees (options : Options) (inputs : List Path) (s : Machine) : Prop where
  /-- A failed input changes no file at its turn unless it is half written. -/
  nothing : ∀ turn ∈ turns options s inputs, (turn.outcome options).succeeded = false →
    ¬ IsHalfWritten options s.files turn.input → (turn.leaves options).files = turn.machine.files
  /-- An input that is half written has failed, and its tree has been written.  This changes the
  file system unless the tree was there before. -/
  tree : ∀ turn ∈ turns options s inputs, IsHalfWritten options s.files turn.input →
    (turn.outcome options).succeeded = false ∧
      ∃ compiled, GivesTexts options s.files turn.input compiled ∧
        turn.machine.files.write (outputPath turn.input options.destination.directory? "")
          compiled.tree.toUTF8 = .ok (turn.leaves options).files ∧
        ((∀ l, (turn.leaves options).files.get? l = turn.machine.files.get? l) ↔
          turn.machine.files.find? (outputPath turn.input options.destination.directory? "") =
            some (.file compiled.tree.toUTF8))
  /-- The run leaves the same file system without its failed inputs, but for those that are half
  written. -/
  without : ∀ keep : Path → Bool,
    (∀ input ∈ inputs, keep input = false →
      (∃ out, ¬ Succeeds options s.files out input) ∧ ¬ IsHalfWritten options s.files input) →
    (analyzeInputs (m := StateM Machine) options (inputs.filter keep) s).2.files =
      (analyzeInputs (m := StateM Machine) options inputs s).2.files

/-! ### One input -/

/-- Nothing is written for an input that neither succeeds nor is half written. -/
theorem files_eq_nil_of_fails (fails : ¬ Succeeds options fs out input)
    (whole : ¬ IsHalfWritten options fs input) : options.files fs input = [] := by
  cases h : options.error? fs out input with
  | none => exact absurd (Options.error?_eq_none_iff.1 h) fails
  | some error => rw [Options.files, Options.writes_of_error h whole, List.filterMap_nil]

/-- An input that is half written has its tree written, also after others. -/
theorem IsHalfWritten.analyzeInput_apply (h : IsHalfWritten options fs input)
    (source : fs.HasSource input stem d)
    (ready : fs.directoryAt (outputHome input options.destination.directory?) = .ok D)
    (written : fs.HasWritten s.files) :
    (analyzeInput (m := StateM Machine) options input s).1.succeeded = false ∧
      ∃ compiled, GivesTexts options fs input compiled ∧
        s.files.write (outputPath input options.destination.directory? "") compiled.tree.toUTF8 =
          .ok (analyzeInput (m := StateM Machine) options input s).2.files ∧
        ((∀ l, (analyzeInput (m := StateM Machine) options input s).2.files.get? l =
            s.files.get? l) ↔
          s.files.find? (outputPath input options.destination.directory? "") =
            some (.file compiled.tree.toUTF8)) := by
  obtain ⟨compiled, cause, texts, fits, failed, writes⟩ := h.exists_error s.output
  have plain : IsPlain (outputName (lossy stem) "") := isPlain_outputName source.isPlain (by decide)
  obtain ⟨l, placed⟩ := exists_write_eq_ok_iff.1 fits
  have files : options.files fs input = [(l, compiled.tree.toUTF8)] := by
    rw [Options.files, writes]
    simp [placed?, placed]
  rw [source.outputPath_eq] at placed
  rw [CommandLine.analyzeInput_apply source ready written, Options.succeeded_outcome, failed, files,
    source.outputPath_eq options.destination.directory? ""]
  refine ⟨rfl, compiled, texts, ?_, ?_⟩
  · rw [write_eq, written.target_join ready plain, placed]
    rfl
  · obtain ⟨n, -, rfl, -, located⟩ := target_join_eq_ok ready plain placed
    have located' := locate_mono written.keepsDirectories located
    rw [find?, located']
    exact forall_get?_put_iff (List.cons_ne_nil n D)

/-! ### All inputs -/

/-- The failed inputs of a run leave at most trees once all inputs are ready. -/
theorem IsReady.leavesAtMostTrees (h : IsReady s.files options.destination inputs) :
    LeavesAtMostTrees options inputs s where
  nothing turn inside failed whole := by
    have written := h.hasWritten_turn (.refl _ s.files) inside
    have applied := h.analyzeInput_apply (Turn.input_mem inside) written
    rw [Turn.outcome, applied, Options.succeeded_outcome] at failed
    obtain ⟨error, fails⟩ := Option.isSome_iff_exists.1 (by simpa using failed)
    rw [Turn.leaves, applied, Options.files, Options.writes_of_error fails whole]
    rfl
  tree turn inside half := by
    obtain ⟨stem, d, D, source, ready⟩ := h turn.input (Turn.input_mem inside)
    exact half.analyzeInput_apply source ready (h.hasWritten_turn (.refl _ s.files) inside)
  without keep dropped := by
    have rest := h.mono fun _ => List.mem_of_mem_filter (p := keep)
    rw [rest.analyzeInputs_files (.refl _ s.files), h.analyzeInputs_files (.refl _ s.files)]
    refine congrArg s.files.putFiles (flatMap_filter_of_eq_nil fun input inside left => ?_)
    obtain ⟨⟨out, fails⟩, whole⟩ := dropped input inside left
    exact files_eq_nil_of_fails fails whole

/-- **A failed input leaves nothing behind unless it is half written**, and then it leaves its tree
and nothing else. -/
theorem failed_inputs_leave_at_most_a_tree {arguments : List Bytes}
    (accepted : parseArguments arguments = .ok (.analyze options))
    (begins : Begins options s.files inputs fs₁) :
    execute (m := StateM Machine) arguments s =
        (.ofOutcomes options.verbose
            (analyzeInputs (m := StateM Machine) options inputs { s with files := fs₁ }).1,
          (analyzeInputs (m := StateM Machine) options inputs { s with files := fs₁ }).2) ∧
      LeavesAtMostTrees options inputs { s with files := fs₁ } := by
  have ready := begins.isReady (isNamed_of_accepted accepted)
  refine ⟨?_, IsReady.leavesAtMostTrees ready⟩
  rw [execute_eq_run accepted, begins.run_apply]

/-- A source that cannot be compiled leaves nothing behind the outputs of another. -/
theorem failing_source_leaves_nothing :
    parseArguments ["-t", "."] = .ok (.analyze ⟨⟨"."⟩, true, .beside, false⟩) ∧
      Begins ⟨⟨"."⟩, true, .beside, false⟩ twoSources.files [⟨"./a.jack"⟩, ⟨"./b.jack"⟩]
        twoSources.files ∧
      let s := (analyzeInputs (m := StateM Machine) ⟨⟨"."⟩, true, .beside, false⟩
        [⟨"./a.jack"⟩] twoSources).2
      let result := analyzeInput (m := StateM Machine) ⟨⟨"."⟩, true, .beside, false⟩
        ⟨"./b.jack"⟩ s
      result.1.succeeded = false ∧ result.2.files = s.files := by
  have accepted : parseArguments ["-t", "."] =
      .ok (.analyze ⟨⟨"."⟩, true, .beside, false⟩) := by decide +kernel
  have begins : Begins ⟨⟨"."⟩, true, .beside, false⟩ twoSources.files
      [⟨"./a.jack"⟩, ⟨"./b.jack"⟩] twoSources.files := begins_iff.2 ⟨by decide +kernel, rfl⟩
  have known : Options.error? ⟨⟨"."⟩, true, .beside, false⟩ twoSources.files .fresh ⟨"./b.jack"⟩ =
      some (.compile ⟨"./b.jack"⟩ ⟨1, .unexpected (.symbol '}') none⟩) := by decide +kernel
  have whole : ¬ IsHalfWritten ⟨⟨"."⟩, true, .beside, false⟩ twoSources.files ⟨"./b.jack"⟩ := by
    intro half
    obtain ⟨compiled, cause, -, -, failed, -⟩ := half.exists_error .fresh
    rw [known] at failed
    cases failed
  have failed : (analyzeInput (m := StateM Machine) ⟨⟨"."⟩, true, .beside, false⟩ ⟨"./b.jack"⟩
      (analyzeInputs (m := StateM Machine) ⟨⟨"."⟩, true, .beside, false⟩ [⟨"./a.jack"⟩]
        twoSources).2).1.succeeded = false := by decide +kernel
  obtain ⟨-, leaves⟩ := failed_inputs_leave_at_most_a_tree accepted begins
  have turn : ⟨⟨"./b.jack"⟩, (analyzeInputs (m := StateM Machine) ⟨⟨"."⟩, true, .beside, false⟩
      [⟨"./a.jack"⟩] twoSources).2⟩ ∈ turns ⟨⟨"."⟩, true, .beside, false⟩ twoSources
        [⟨"./a.jack"⟩, ⟨"./b.jack"⟩] := mem_turns_iff.2 ⟨[_], [], rfl, rfl⟩
  exact ⟨accepted, begins, failed, leaves.nothing _ turn failed whole⟩

/-- A source has failed since its listing cannot be written, and its tree has been written. -/
theorem tree_stays_without_listing :
    parseArguments ["-t", "."] = .ok (.analyze ⟨⟨"."⟩, true, .beside, false⟩) ∧
      (inputsAt (m := StateM FileSystem) ⟨"."⟩ blockedListing.files).1 = .ok [⟨"./A.jack"⟩] ∧
      (execute (m := StateM Machine) ["-t", "."] blockedListing).1 =
        ⟨1, ["error: ./AT.xml: Is a directory (os error 21)"]⟩ ∧
      (analyzeInput (m := StateM Machine) ⟨⟨"."⟩, true, .beside, false⟩ ⟨"./A.jack"⟩
        blockedListing).1.succeeded = false ∧
      blockedListing.files.find? ⟨"./A.xml"⟩ = none ∧
      (analyzeInput (m := StateM Machine) ⟨⟨"."⟩, true, .beside, false⟩ ⟨"./A.jack"⟩
        blockedListing).2.files.find? ⟨"./A.xml"⟩ =
          some (.file ("<class>\n\t<keyword> class </keyword>\n\t<identifier> A </identifier>\n" ++
            "\t<symbol> \x7b </symbol>\n\t<symbol> \x7d </symbol>\n</class>\n").toUTF8) := by
  refine ⟨?_, ?_, ?_, ?_, ?_, ?_⟩ <;> decide +kernel

end JackSyntax.CommandLine
