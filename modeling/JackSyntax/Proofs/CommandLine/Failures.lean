/-
**Why an input fails.**

An input fails because its source cannot be read, is not text or cannot be compiled, or because its
outputs cannot be printed or written.  Whichever of these comes first is the error of the input, and
nothing behind it is tried.  Since the tree is written before the token listing, an input whose
listing cannot be written leaves its tree behind.  No other failure leaves a file.

Main definitions:

* `FailsWith`, `Succeeds` — the error of an input that fails, and an input that does not;
* `IsHalfWritten` — an input of which the tree can be written and the listing cannot;
* `Options.error?`, `Options.outcome` — the error of an input and what it contributes to a report,
  as functions;
* `Options.prints`, `Options.writes`, `Options.files` — the texts that are to be printed for an
  input, the outputs that are written for it, and where.

Main results:

* `Options.error?_eq_some_iff`, `Options.error?_eq_none_iff` — the function says which inputs fail,
  and why;
* `Options.outcome_of_error`, `Options.outcome_of_success` — what an input contributes to a report;
* `Options.writes_of_error`, `IsHalfWritten.exists_error` — **what is written for an input that
  fails**: nothing, or its tree if it is half written.
-/

import JackSyntax.Proofs.Analysis.Writes
import JackSyntax.Proofs.CommandLine.Prints

set_option relaxedAutoImplicit false
set_option autoImplicit false

namespace JackSyntax

namespace FileSystem

variable {fs : FileSystem} {p : Path} {contents : ByteArray} {output : Path × String}
  {outputs : List (Path × String)}

/-! ### Outputs that cannot be written -/

theorem write_eq_error_iff {error : SystemError} :
    fs.write p contents = .error error ↔ fs.target p = .error error := by
  rw [write_eq]
  cases fs.target p <;> simp [Except.map]

theorem exists_write_eq_ok_iff :
    (∃ fs', fs.write p contents = .ok fs') ↔ ∃ l, fs.target p = .ok l := by
  rw [write_eq]
  cases fs.target p <;> simp [Except.map]

/-- The error of an output that cannot be written. -/
def refusal? (fs : FileSystem) (output : Path × String) : Option AnalysisError :=
  match fs.target output.1 with
  | .ok _ => none
  | .error error => some (.system output.1 error)

theorem refusal?_eq_some_iff {error : AnalysisError} :
    fs.refusal? output = some error ↔
      ∃ cause, fs.write output.1 output.2.toUTF8 = .error cause ∧
        error = .system output.1 cause := by
  simp only [write_eq_error_iff]
  unfold refusal?
  cases fs.target output.1 <;> simp [eq_comm]

theorem refusal?_eq_none_iff :
    fs.refusal? output = none ↔ ∃ fs', fs.write output.1 output.2.toUTF8 = .ok fs' := by
  rw [exists_write_eq_ok_iff]
  unfold refusal?
  cases fs.target output.1 <;> simp

/-- Writing outputs fails with the first that cannot be written. -/
theorem plan_fst (fs : FileSystem) (outputs : List (Path × String)) :
    (fs.plan outputs).1 =
      match outputs.findSome? fs.refusal? with
      | some error => .error error
      | none => .ok (outputs.map Prod.fst) := by
  induction outputs with
  | nil => rfl
  | cons output outputs ih =>
      rw [plan, List.findSome?_cons, refusal?]
      cases fs.target output.1 with
      | error error => rfl
      | ok l =>
          simp only [ih]
          cases outputs.findSome? fs.refusal? <;> rfl

/-- Where an output is written, and what. -/
def placed? (fs : FileSystem) (output : Path × String) : Option (Location × ByteArray) :=
  match fs.target output.1 with
  | .ok l => some (l, output.2.toUTF8)
  | .error _ => none

/-- The outputs before the first that cannot be written are written. -/
theorem plan_snd (fs : FileSystem) (outputs : List (Path × String)) :
    (fs.plan outputs).2 =
      (outputs.takeWhile fun output => (fs.refusal? output).isNone).filterMap fs.placed? := by
  induction outputs with
  | nil => rfl
  | cons output outputs ih =>
      rw [plan, List.takeWhile_cons, refusal?]
      cases placed : fs.target output.1 with
      | error error => rfl
      | ok l => simp [placed?, placed, ih]

end FileSystem

namespace CommandLine

open FileSystem

variable {fs : FileSystem} {out : StandardOutput} {options : Options} {input : Path}
  {error : AnalysisError} {compiled : Compiled}

/-! ### The error of an input -/

/-- The texts that an input gives, if it can be read and compiled. -/
def GivesTexts (options : Options) (fs : FileSystem) (input : Path) (compiled : Compiled) : Prop :=
  ∃ bytes source, fs.read input = .ok bytes ∧ String.fromUTF8? bytes = some source ∧
    compile options.withTokens source = .ok compiled

/-- The texts that are to be printed for an input: none if they are written. -/
def Options.toPrint (options : Options) (compiled : Compiled) : List String :=
  match options.destination with
  | .standardOutput => compiled.texts
  | _ => []

/-- The outputs that are to be written for an input: none if they are printed. -/
def Options.toWrite (options : Options) (input : Path) (compiled : Compiled) :
    List (Path × String) :=
  match options.destination with
  | .standardOutput => []
  | destination => compiled.outputs input destination.directory?

/-- The first error of an input. -/
inductive FailsWith (options : Options) (fs : FileSystem) (out : StandardOutput) (input : Path) :
    AnalysisError → Prop where
  | unreadable {error : SystemError} (read : fs.read input = .error error) :
      FailsWith options fs out input (.system input error)
  | notText {bytes : ByteArray} (read : fs.read input = .ok bytes)
      (decoded : String.fromUTF8? bytes = none) : FailsWith options fs out input (.notText input)
  | notCompiled {bytes : ByteArray} {source : String} {error : CompileError}
      (read : fs.read input = .ok bytes) (decoded : String.fromUTF8? bytes = some source)
      (refused : compile options.withTokens source = .error error) :
      FailsWith options fs out input (.compile input error)
  /-- The texts before this one can be printed. -/
  | notPrinted {compiled : Compiled} {before after : List String} {text : String}
      {mid last : StandardOutput} {error : SystemError}
      (texts : GivesTexts options fs input compiled)
      (outputs : options.toPrint compiled = before ++ text :: after)
      (earlier : out.Prints before mid) (refused : mid.print text = (.error error, last)) :
      FailsWith options fs out input (.system input error)
  /-- The outputs before this one can be written. -/
  | notWritten {compiled : Compiled} {before after : List (Path × String)} {path : Path}
      {text : String} {error : SystemError} (texts : GivesTexts options fs input compiled)
      (outputs : options.toWrite input compiled = before ++ (path, text) :: after)
      (earlier : ∀ output ∈ before, ∃ fs', fs.write output.1 output.2.toUTF8 = .ok fs')
      (refused : fs.write path text.toUTF8 = .error error) :
      FailsWith options fs out input (.system path error)

/-- An input that can be read and compiled, and whose outputs can be printed or written, whichever
they are to be. -/
def Succeeds (options : Options) (fs : FileSystem) (out : StandardOutput) (input : Path) : Prop :=
  ∃ compiled, GivesTexts options fs input compiled ∧
    (∃ last, out.Prints (options.toPrint compiled) last) ∧
    ∀ output ∈ options.toWrite input compiled, ∃ fs', fs.write output.1 output.2.toUTF8 = .ok fs'

/-- An input of which the tree can be written, but not the token listing. -/
def IsHalfWritten (options : Options) (fs : FileSystem) (input : Path) : Prop :=
  options.destination ≠ .standardOutput ∧ ∃ compiled listing,
    GivesTexts options fs input compiled ∧ compiled.tokens = some listing ∧
    (∃ fs', fs.write (outputPath input options.destination.directory? "")
      compiled.tree.toUTF8 = .ok fs') ∧
    ∃ error, fs.write (outputPath input options.destination.directory? "T") listing.toUTF8 =
      .error error

theorem compiled_eq_ok_iff :
    fs.compiled options.withTokens input = .ok compiled ↔ GivesTexts options fs input compiled := by
  unfold FileSystem.compiled GivesTexts
  cases fs.read input with
  | error error => simp
  | ok bytes =>
      cases decoded : String.fromUTF8? bytes with
      | none => simp [decoded]
      | some source =>
          cases result : compile options.withTokens source <;>
            simp [decoded, result, Except.mapError]

theorem Options.toPrint_of_printed (printed : options.destination = .standardOutput)
    (compiled : Compiled) : options.toPrint compiled = compiled.texts := by
  rw [Options.toPrint, printed]

theorem Options.toPrint_of_toFiles (toFiles : options.destination ≠ .standardOutput)
    (compiled : Compiled) : options.toPrint compiled = [] := by
  unfold Options.toPrint
  split
  · rename_i printed
    exact absurd printed toFiles
  · rfl

/-- Printed outputs are not written. -/
theorem Options.toWrite_of_printed (printed : options.destination = .standardOutput)
    (input : Path) (compiled : Compiled) : options.toWrite input compiled = [] := by
  rw [Options.toWrite, printed]

theorem Options.toWrite_of_toFiles (toFiles : options.destination ≠ .standardOutput)
    (input : Path) (compiled : Compiled) :
    options.toWrite input compiled = compiled.outputs input options.destination.directory? := by
  unfold Options.toWrite
  split
  · rename_i printed
    exact absurd printed toFiles
  · rfl

/-- The error of an input of which the texts cannot all be printed. -/
def printRefusal? (input : Path) (out : StandardOutput) (texts : List String) :
    Option AnalysisError :=
  match (out.printAll texts).1 with
  | .ok () => none
  | .error error => some (.system input error)

theorem printRefusal?_eq_none_iff {texts : List String} :
    printRefusal? input out texts = none ↔ ∃ last, out.Prints texts last := by
  simp only [← StandardOutput.printAll_eq_ok_iff]
  unfold printRefusal?
  rcases out.printAll texts with ⟨error | ⟨⟩, last⟩ <;> simp

theorem printRefusal?_eq_some_iff {texts : List String} :
    printRefusal? input out texts = some error ↔
      ∃ cause last, out.printAll texts = (.error cause, last) ∧ error = .system input cause := by
  unfold printRefusal?
  rcases out.printAll texts with ⟨error | ⟨⟩, last⟩ <;> simp [eq_comm]

/-- The error of an input, if it fails. -/
def Options.error? (options : Options) (fs : FileSystem) (out : StandardOutput) (input : Path) :
    Option AnalysisError :=
  match fs.compiled options.withTokens input with
  | .error error => some error
  | .ok compiled =>
      (printRefusal? input out (options.toPrint compiled)).or
        ((options.toWrite input compiled).findSome? fs.refusal?)

theorem Options.error?_of_not_compiled (h : fs.compiled options.withTokens input = .error error)
    (out : StandardOutput) : options.error? fs out input = some error := by
  rw [Options.error?, h]

theorem Options.error?_of_givesTexts (texts : GivesTexts options fs input compiled)
    (out : StandardOutput) :
    options.error? fs out input =
      (printRefusal? input out (options.toPrint compiled)).or
        ((options.toWrite input compiled).findSome? fs.refusal?) := by
  rw [Options.error?, compiled_eq_ok_iff.2 texts]

/-- The error of an input whose outputs are written is one of them. -/
theorem Options.error?_of_toFiles (toFiles : options.destination ≠ .standardOutput)
    (texts : GivesTexts options fs input compiled) (out : StandardOutput) :
    options.error? fs out input =
      (compiled.outputs input options.destination.directory?).findSome? fs.refusal? := by
  rw [error?_of_givesTexts texts, toPrint_of_toFiles toFiles, toWrite_of_toFiles toFiles]
  rfl

/-- The error is the first one. -/
theorem Options.error?_eq_some_iff :
    options.error? fs out input = some error ↔ FailsWith options fs out input error := by
  constructor
  · intro h
    cases texts : fs.compiled options.withTokens input with
    | ok compiled =>
        rw [compiled_eq_ok_iff] at texts
        rw [error?_of_givesTexts texts, Option.or_eq_some_iff] at h
        rcases h with h | ⟨-, h⟩
        · obtain ⟨cause, last, refused, rfl⟩ := printRefusal?_eq_some_iff.1 h
          obtain ⟨before, text, after, mid, outputs, earlier, refused⟩ :=
            StandardOutput.printAll_eq_error_iff.1 refused
          exact .notPrinted texts outputs earlier refused
        · rw [List.findSome?_eq_some_iff] at h
          obtain ⟨before, output, after, outputs, refused, earlier⟩ := h
          obtain ⟨cause, refused', rfl⟩ := refusal?_eq_some_iff.1 refused
          exact .notWritten texts outputs
            (fun output inside => refusal?_eq_none_iff.1 (earlier output inside)) refused'
    | error error' =>
        rw [Options.error?, texts] at h
        obtain rfl := Option.some.inj h
        unfold FileSystem.compiled at texts
        split at texts
        · rename_i read
          obtain rfl := Except.error.inj texts
          exact .unreadable read
        · rename_i bytes read
          split at texts
          · rename_i decoded
            obtain rfl := Except.error.inj texts
            exact .notText read decoded
          · rename_i source decoded
            cases refused : compile options.withTokens source with
            | ok compiled =>
                rw [refused] at texts
                cases texts
            | error error =>
                rw [refused] at texts
                obtain rfl := Except.error.inj texts
                exact .notCompiled read decoded refused
  · intro h
    cases h with
    | unreadable read => simp only [Options.error?, FileSystem.compiled, read]
    | notText read decoded => simp only [Options.error?, FileSystem.compiled, read, decoded]
    | notCompiled read decoded refused =>
        simp only [Options.error?, FileSystem.compiled, read, decoded, refused, Except.mapError]
    | notPrinted texts outputs earlier refused =>
        rw [error?_of_givesTexts texts, Option.or_eq_some_iff]
        exact Or.inl (printRefusal?_eq_some_iff.2 ⟨_, _,
          StandardOutput.printAll_eq_error_iff.2 ⟨_, _, _, _, outputs, earlier, refused⟩, rfl⟩)
    | notWritten texts outputs earlier refused =>
        have toFiles : options.destination ≠ .standardOutput := by
          intro printed
          rw [toWrite_of_printed printed] at outputs
          simp at outputs
        rw [toWrite_of_toFiles toFiles] at outputs
        rw [error?_of_toFiles toFiles texts, outputs, List.findSome?_eq_some_iff]
        exact ⟨_, _, _, rfl, refusal?_eq_some_iff.2 ⟨_, refused, rfl⟩,
          fun output inside => refusal?_eq_none_iff.2 (earlier output inside)⟩

/-- An input without an error succeeds. -/
theorem Options.error?_eq_none_iff :
    options.error? fs out input = none ↔ Succeeds options fs out input := by
  unfold Succeeds
  cases texts : fs.compiled options.withTokens input with
  | error error =>
      have none_given (compiled : Compiled) : ¬ GivesTexts options fs input compiled := by
        rw [← compiled_eq_ok_iff, texts]
        exact nofun
      simp [Options.error?, texts, none_given]
  | ok compiled =>
      rw [compiled_eq_ok_iff] at texts
      have only {compiled' : Compiled} (texts' : GivesTexts options fs input compiled') :
          compiled' = compiled :=
        Except.ok.inj ((compiled_eq_ok_iff.2 texts').symm.trans (compiled_eq_ok_iff.2 texts))
      rw [error?_of_givesTexts texts, Option.or_eq_none_iff, List.findSome?_eq_none_iff,
        printRefusal?_eq_none_iff]
      simp only [refusal?_eq_none_iff]
      constructor
      · exact fun all => ⟨compiled, texts, all⟩
      · rintro ⟨compiled', texts', all⟩
        rwa [only texts'] at all

/-! ### What an input contributes -/

/-- What an input contributes to a report if it succeeds. -/
def Options.success (options : Options) (input : Path) (compiled : Compiled) : Outcome :=
  match options.destination with
  | .standardOutput => .printed
  | _ => .wrote options.verbose ((options.toWrite input compiled).map Prod.fst)

theorem Options.success_of_toFiles (toFiles : options.destination ≠ .standardOutput)
    (input : Path) (compiled : Compiled) : options.success input compiled =
      .wrote options.verbose ((options.toWrite input compiled).map Prod.fst) := by
  unfold Options.success
  split
  · rename_i printed
    exact absurd printed toFiles
  · rfl

theorem Options.succeeded_success (options : Options) (input : Path) (compiled : Compiled) :
    (options.success input compiled).succeeded = true := by
  unfold success
  split <;> rfl

/-- What an input contributes to a report. -/
def Options.outcome (options : Options) (fs : FileSystem) (out : StandardOutput) (input : Path) :
    Outcome :=
  match fs.compiled options.withTokens input with
  | .error error => .failed error
  | .ok compiled =>
      (options.error? fs out input).elim (options.success input compiled) .failed

/-- An input that fails contributes its error. -/
theorem Options.outcome_of_error (h : options.error? fs out input = some error) :
    options.outcome fs out input = .failed error := by
  unfold outcome
  split
  · rename_i failed
    rw [error?, failed] at h
    rw [Option.some.inj h]
  · rw [h]
    rfl

/-- An input that succeeds contributes nothing, or the paths of its outputs. -/
theorem Options.outcome_of_success (texts : GivesTexts options fs input compiled)
    (h : options.error? fs out input = none) :
    options.outcome fs out input = options.success input compiled := by
  rw [outcome, compiled_eq_ok_iff.2 texts]
  dsimp only
  rw [h]
  rfl

/-- The outcome of an input tells whether it succeeds. -/
theorem Options.succeeded_outcome (options : Options) (fs : FileSystem) (out : StandardOutput)
    (input : Path) :
    (options.outcome fs out input).succeeded = (options.error? fs out input).isNone := by
  cases h : options.error? fs out input with
  | some error =>
      rw [outcome_of_error h]
      rfl
  | none =>
      obtain ⟨compiled, texts, -⟩ := error?_eq_none_iff.1 h
      rw [outcome_of_success texts h, succeeded_success]
      rfl

/-! ### What is printed and written for an input -/

/-- The texts that are to be printed for an input. -/
def Options.prints (options : Options) (fs : FileSystem) (input : Path) : List String :=
  match fs.compiled options.withTokens input with
  | .error _ => []
  | .ok compiled => options.toPrint compiled

/-- The outputs that are written for an input: those before the first that cannot be written. -/
def Options.writes (options : Options) (fs : FileSystem) (input : Path) : List (Path × String) :=
  match fs.compiled options.withTokens input with
  | .error _ => []
  | .ok compiled =>
      (options.toWrite input compiled).takeWhile fun output => (fs.refusal? output).isNone

/-- The files that are written for an input, each at its place. -/
def Options.files (options : Options) (fs : FileSystem) (input : Path) :
    List (Location × ByteArray) := (options.writes fs input).filterMap fs.placed?

theorem Options.prints_of_givesTexts (texts : GivesTexts options fs input compiled) :
    options.prints fs input = options.toPrint compiled := by
  rw [Options.prints, compiled_eq_ok_iff.2 texts]

theorem Options.prints_of_toFiles (toFiles : options.destination ≠ .standardOutput)
    (fs : FileSystem) (input : Path) : options.prints fs input = [] := by
  unfold Options.prints
  split
  · rfl
  · exact toPrint_of_toFiles toFiles _

theorem Options.writes_of_not_compiled (h : fs.compiled options.withTokens input = .error error) :
    options.writes fs input = [] := by
  rw [Options.writes, h]

theorem Options.writes_of_givesTexts (texts : GivesTexts options fs input compiled) :
    options.writes fs input =
      (options.toWrite input compiled).takeWhile fun output => (fs.refusal? output).isNone := by
  rw [Options.writes, compiled_eq_ok_iff.2 texts]

theorem Options.writes_of_printed (printed : options.destination = .standardOutput)
    (fs : FileSystem) (input : Path) : options.writes fs input = [] := by
  unfold Options.writes
  split
  · rfl
  · rw [toWrite_of_printed printed]
    rfl

/-- An input of which a file is written does not print its outputs. -/
theorem Options.toFiles_of_mem_files {file : Location × ByteArray}
    (written : file ∈ options.files fs input) : options.destination ≠ .standardOutput := by
  intro printed
  rw [Options.files, Options.writes_of_printed printed] at written
  cases written

/-- The files of an input whose outputs are written are those of its analysis. -/
theorem Options.files_of_toFiles (toFiles : options.destination ≠ .standardOutput)
    (fs : FileSystem) (input : Path) :
    options.files fs input =
      (fs.analysis options.withTokens options.destination.directory? input).2 := by
  rw [Options.files, Options.writes, analysis]
  cases fs.compiled options.withTokens input with
  | error error => rfl
  | ok compiled =>
      dsimp only
      rw [plan_snd, toWrite_of_toFiles toFiles]

/-- All outputs of an input that succeeds are written. -/
theorem Options.writes_of_success (texts : GivesTexts options fs input compiled)
    (h : options.error? fs out input = none) :
    options.writes fs input = options.toWrite input compiled := by
  rw [error?_of_givesTexts texts, Option.or_eq_none_iff, List.findSome?_eq_none_iff] at h
  rw [writes_of_givesTexts texts, List.takeWhile_eq_self_iff]
  intro output inside
  rw [h.2 output inside]
  rfl

/-- **Nothing is written for an input that fails, unless it is half written.** -/
theorem Options.writes_of_error (h : options.error? fs out input = some error)
    (whole : ¬ IsHalfWritten options fs input) : options.writes fs input = [] := by
  by_cases printed : options.destination = .standardOutput
  · exact writes_of_printed printed fs input
  · cases texts : fs.compiled options.withTokens input with
    | error error' => exact writes_of_not_compiled texts
    | ok compiled =>
        have texts := compiled_eq_ok_iff.1 texts
        rw [error?_of_toFiles printed texts, Compiled.outputs, List.findSome?_cons] at h
        rw [writes_of_givesTexts texts, toWrite_of_toFiles printed, Compiled.outputs]
        refine List.takeWhile_cons_of_neg ?_
        rw [Option.isNone_iff_eq_none]
        intro tree
        -- the tree can be written, so the error is one of the listing
        have fits := refusal?_eq_none_iff.1 tree
        rw [tree] at h
        obtain ⟨listing, inside, refused⟩ := List.exists_of_findSome?_eq_some h
        obtain ⟨text, listed, rfl⟩ := Option.map_eq_some_iff.1 (Option.mem_toList.1 inside)
        obtain ⟨cause, refused, -⟩ := refusal?_eq_some_iff.1 refused
        exact whole
          ⟨printed, compiled, text, texts, listed, fits, cause, refused⟩

/-- **Its tree is written for an input that is half written**, and the error is that of the
listing. -/
theorem IsHalfWritten.exists_error (h : IsHalfWritten options fs input) (out : StandardOutput) :
    ∃ compiled cause, GivesTexts options fs input compiled ∧
      (∃ fs', fs.write (outputPath input options.destination.directory? "")
        compiled.tree.toUTF8 = .ok fs') ∧
      options.error? fs out input =
        some (.system (outputPath input options.destination.directory? "T") cause) ∧
      options.writes fs input =
        [(outputPath input options.destination.directory? "", compiled.tree)] := by
  obtain ⟨toFiles, compiled, listing, texts, listed, written, cause, refused⟩ := h
  have tree : fs.refusal? (outputPath input options.destination.directory? "", compiled.tree) =
      none := refusal?_eq_none_iff.2 written
  have list : fs.refusal? (outputPath input options.destination.directory? "T", listing) =
      some (.system (outputPath input options.destination.directory? "T") cause) :=
    refusal?_eq_some_iff.2 ⟨cause, refused, rfl⟩
  refine ⟨compiled, cause, texts, written, ?_⟩
  rw [Options.error?_of_toFiles toFiles texts, Options.writes_of_givesTexts texts,
    Options.toWrite_of_toFiles toFiles, Compiled.outputs, listed]
  simp [tree, list]

end CommandLine

end JackSyntax
