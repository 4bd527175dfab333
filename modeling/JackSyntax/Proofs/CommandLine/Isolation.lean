/-
**The inputs of a batch are analyzed as if each were alone.**

No output is ever read, no output stands in the way of another, and the directories of the outputs
are there before the first of them.  So the result for each input is the one that it has alone,
whatever the other inputs hold and in whatever order they come.

Without token listings an input changes nothing but what the path of its output leads to.  Two
inputs have the same output only if their stems are shown alike, which stems that are texts never
are.  Where several inputs write, the last of them leaves what it leaves alone; so if all stems are
shown differently, the changes of a batch are those of its inputs one by one.

Main definitions:

* `WritesAt` — where an input writes its tree when it is alone;
* `IsIsolated` — the analyses of inputs do not depend on each other.

Main results:

* `analyzeAll_apply` — the results of several analyses, in any order;
* `mem_files_iff` — the file that an input writes without token listings;
* `IsBatch.isIsolated` — the inputs of a directory are isolated once they are ready;
* `batch_is_isolated` — **a run over a directory is the runs over its inputs**.
-/

import JackSyntax.Analysis.Batch
import JackSyntax.Proofs.CommandLine.Outcomes

set_option relaxedAutoImplicit false
set_option autoImplicit false

namespace JackSyntax.CommandLine

open FileSystem

variable {fs t : FileSystem} {s : Machine} {options : Options} {inputs order : List Path}
  {input other : Path} {stem : Bytes} {d D l : Location} {contents : ByteArray}

/-- An input writes its tree to a place when it is alone. -/
structure WritesAt (options : Options) (s : Machine) (input : Path) (l : Location) : Prop where
  toFiles : options.destination ≠ .standardOutput
  succeeds : (analyzeInput (m := StateM Machine) options input s).1.succeeded = true
  place : s.files.locate (outputPath input options.destination.directory? "") = .ok l

/-- The analyses of inputs do not depend on each other, in whatever order they come and whichever of
the inputs are left out. -/
structure IsIsolated (options : Options) (inputs : List Path) (s : Machine) : Prop where
  /-- Each input has the result that it has alone: the paths that are written, or the error. -/
  results : ∀ order ⊆ inputs,
    (analyzeAll (m := StateM FileSystem) options.withTokens options.destination.directory?
        order s.files).1 =
      order.map fun input => (input, (analyzeFile (m := StateM FileSystem) options.withTokens
        options.destination.directory? input s.files).1)
  /-- If the outputs go to files, each input contributes its result to the report. -/
  reported : options.destination ≠ .standardOutput → ∀ input ∈ inputs,
    analyzeInput (m := StateM Machine) options input s =
      (.ofResult options.verbose (analyzeFile (m := StateM FileSystem) options.withTokens
          options.destination.directory? input s.files).1,
        { s with files := (analyzeFile (m := StateM FileSystem) options.withTokens
          options.destination.directory? input s.files).2 })
  /-- Each input contributes to the report what it contributes alone on the same standard output. -/
  turns : ∀ order ⊆ inputs, ∀ turn ∈ turns options s order, turn.outcome options =
    (analyzeInput (m := StateM Machine) options turn.input
      { s with output := turn.machine.output }).1
  /-- The standard output makes no difference if the outputs go to files or if no print fails. -/
  outcomes : IsReliable options s.output → ∀ order ⊆ inputs,
    (analyzeInputs (m := StateM Machine) options order s).1 =
      order.map fun input => (analyzeInput (m := StateM Machine) options input s).1
  /-- Without token listings, an input changes nothing but what the path of its output leads to. -/
  own : options.withTokens = false → ∀ input ∈ inputs, ∀ l,
    (analyzeInput (m := StateM Machine) options input s).2.files.get? l ≠ s.files.get? l →
      WritesAt options s input l
  /-- Without token listings, there is in the end what the last input to write at a place leaves
  there alone. -/
  last : options.withTokens = false → ∀ before input after, before ++ input :: after ⊆ inputs →
    ∀ l, WritesAt options s input l → (∀ other ∈ after, ¬ WritesAt options s other l) →
      (analyzeInputs (m := StateM Machine) options (before ++ input :: after) s).2.files.get? l =
        (analyzeInput (m := StateM Machine) options input s).2.files.get? l
  /-- Without token listings, there is what there was where no input writes. -/
  untouched : options.withTokens = false → ∀ order ⊆ inputs, ∀ l,
    (∀ input ∈ order, ¬ WritesAt options s input l) →
      (analyzeInputs (m := StateM Machine) options order s).2.files.get? l = s.files.get? l
  /-- Without token listings and with stems that are shown differently, what is new after all of the
  inputs is what is new after one of them. -/
  changes : options.withTokens = false → ∀ order ⊆ inputs, HaveDistinctStems order → ∀ l entry,
    s.files.IsNew (analyzeInputs (m := StateM Machine) options order s).2.files l entry ↔
      ∃ input ∈ order,
        s.files.IsNew (analyzeInput (m := StateM Machine) options input s).2.files l entry
  /-- The paths of the outputs of two inputs lead to the same place only if their stems are shown
  alike. -/
  apart : ∀ input ∈ inputs, ∀ other ∈ inputs, ∀ l,
    s.files.locate (outputPath input options.destination.directory? "") = .ok l →
      s.files.locate (outputPath other options.destination.directory? "") = .ok l →
        input.shownStem = other.shownStem
  /-- If all file names are texts, the stems are shown differently. -/
  texts : (∀ input ∈ inputs, IsText (input.fileName?.getD [])) → HaveDistinctStems inputs

/-! ### Results -/

/-- The results of several analyses, in any order. -/
theorem analyzeAll_apply {destination : Destination} (h : IsReady fs destination inputs)
    (written : fs.HasWritten t) (withTokens : Bool) :
    analyzeAll (m := StateM FileSystem) withTokens destination.directory? inputs t =
      (inputs.map fun input => (input, (fs.analysis withTokens destination.directory? input).1),
        t.putFiles (inputs.flatMap fun input =>
          (fs.analysis withTokens destination.directory? input).2)) := by
  induction inputs generalizing t with
  | nil => rfl
  | cons input inputs ih =>
      obtain ⟨stem, d, D, source, ready⟩ := h input List.mem_cons_self
      have next : fs.HasWritten
          (t.putFiles (fs.analysis withTokens destination.directory? input).2) :=
        written.putFiles fun file => source.isOutput_of_mem_analysis ready
      have others := ih (h.mono (List.subset_cons_self _ _)) next
      rw [analyzeAll, bind_apply, source.analyzeFile_apply ready written, bind_apply, others,
        pure_apply, List.map_cons, List.flatMap_cons, putFiles_append]

/-! ### Places of outputs in a batch -/

/-- An input of a batch by itself. -/
theorem IsBatch.analyzeInput_apply (h : IsBatch s.files options.destination inputs d D)
    (inside : input ∈ inputs) (out : StandardOutput) :
    analyzeInput (m := StateM Machine) options input { s with output := out } =
      (options.outcome s.files out input, ⟨s.files.putFiles (options.files s.files input),
        (out.printAll (options.prints s.files input)).2⟩) :=
  h.isReady.analyzeInput_apply inside (.refl _ s.files)

/-- Without token listings an input writes its tree at its own place, or nothing. -/
theorem IsBatch.mem_files_iff (h : IsBatch s.files options.destination inputs d D)
    (treeOnly : options.withTokens = false) (inside : input ∈ inputs) :
    (l, contents) ∈ options.files s.files input ↔ WritesAt options s input l ∧
      ∃ compiled, s.files.compiled options.withTokens input = .ok compiled ∧
        contents = compiled.tree.toUTF8 := by
  obtain ⟨stem, source⟩ := h.source input inside
  have alone := h.analyzeInput_apply inside s.output
  constructor
  · intro written
    have toFiles := Options.toFiles_of_mem_files written
    have written' := written
    rw [Options.files_of_toFiles toFiles] at written'
    obtain ⟨compiled, suffix, text, success, given, rfl, located, -⟩ :=
      source.exists_of_mem_analysis (h.ready input inside) written'
    obtain ⟨rfl, rfl⟩ | ⟨-, listed⟩ := given
    · refine ⟨⟨toFiles, ?_, located⟩, compiled, success, rfl⟩
      have texts := compiled_eq_ok_iff.1 success
      have whole : ¬ IsHalfWritten options s.files input := by
        rintro ⟨-, compiled', listing, texts', listed, -⟩
        exact absurd (treeOnly.symm.trans
          (withTokens_of_listed (compiled_eq_ok_iff.2 texts') listed)) Bool.false_ne_true
      rw [alone, Options.succeeded_outcome, Option.isNone_iff_eq_none]
      -- nothing is written for an input that fails and is not half written
      by_contra fails
      obtain ⟨error, fails⟩ := Option.ne_none_iff_exists'.1 fails
      rw [Options.files, Options.writes_of_error fails whole] at written
      cases written
    · exact absurd (treeOnly.symm.trans (withTokens_of_listed success listed)) Bool.false_ne_true
  · rintro ⟨writes, compiled, success, rfl⟩
    have succeeded := writes.succeeds
    rw [alone] at succeeded
    obtain ⟨compiled', success', written⟩ := exists_compiled_of_succeeded writes.toFiles succeeded
    obtain rfl := Except.ok.inj (success.symm.trans success')
    obtain ⟨l', placed, written⟩ := written _ List.mem_cons_self
    have given : compiled.Gives "" compiled.tree := Or.inl ⟨rfl, rfl⟩
    have place := writes.place
    rw [source.outputPath_eq] at placed place
    obtain ⟨n, -, -, -, located⟩ :=
      target_join_eq_ok (h.ready input inside) (given.isPlain source.isPlain) placed
    obtain rfl := Except.ok.inj (place.symm.trans located)
    exact written

/-- The paths of the outputs of two inputs lead to the same place only if their stems are shown
alike. -/
theorem IsBatch.shownStem_eq_of_locate (h : IsBatch fs options.destination inputs d D)
    (inside : input ∈ inputs) (inside' : other ∈ inputs)
    (located : fs.locate (outputPath input options.destination.directory? "") = .ok l)
    (located' : fs.locate (outputPath other options.destination.directory? "") = .ok l) :
    input.shownStem = other.shownStem := by
  obtain ⟨stem, source⟩ := h.source input inside
  obtain ⟨stem', source'⟩ := h.source other inside'
  have plain {stem : Bytes} (plain : IsPlain (sourceName stem)) :
      IsPlain (outputName (lossy stem) "") := isPlain_outputName plain (by simp)
  rw [source.outputPath_eq] at located
  rw [source'.outputPath_eq] at located'
  obtain ⟨n, name, rfl⟩ := locate_join_eq_ok (plain source.isPlain) (h.ready input inside) located
  obtain ⟨n', name', same⟩ :=
    locate_join_eq_ok (plain source'.isPlain) (h.ready other inside') located'
  obtain ⟨rfl, -⟩ := List.cons_eq_cons.1 same
  rw [source.shownStem, source'.shownStem]
  simpa using outputName_inj.1 (name.symm.trans name')

/-- Places of outputs are inside directories. -/
theorem IsBatch.ne_nil_of_mem_files (h : IsBatch fs options.destination inputs d D)
    (inside : input ∈ inputs) (written : (l, contents) ∈ options.files fs input) : l ≠ [] := by
  obtain ⟨⟨n, d, -, -, place, -⟩, -⟩ := h.isReady.isOutput inside written
  rw [show l = n :: d from place]
  exact List.cons_ne_nil n d

/-! ### Isolation -/

/-- The files that are left by some of the inputs of a batch. -/
theorem IsBatch.analyzeInputs_files (h : IsBatch s.files options.destination inputs d D)
    (sub : order ⊆ inputs) :
    (analyzeInputs (m := StateM Machine) options order s).2.files =
      s.files.putFiles (order.flatMap (options.files s.files)) :=
  (h.isReady.mono sub).analyzeInputs_files (.refl _ s.files)

/-- The last input to write at a place leaves there what it leaves alone. -/
theorem IsBatch.get?_of_last (h : IsBatch s.files options.destination inputs d D)
    (treeOnly : options.withTokens = false) {before after : List Path}
    (sub : before ++ input :: after ⊆ inputs) (writes : WritesAt options s input l)
    (others : ∀ other ∈ after, ¬ WritesAt options s other l) :
    (analyzeInputs (m := StateM Machine) options (before ++ input :: after) s).2.files.get? l =
      (analyzeInput (m := StateM Machine) options input s).2.files.get? l := by
  have inside : input ∈ inputs := sub (by simp)
  have succeeded := writes.succeeds
  rw [h.analyzeInput_apply inside s.output] at succeeded
  obtain ⟨compiled, success, -⟩ := exists_compiled_of_succeeded writes.toFiles succeeded
  have written := (h.mem_files_iff treeOnly inside).2 ⟨writes, compiled, success, rfl⟩
  have own (contents : ByteArray) (written : (l, contents) ∈ options.files s.files input) :
      contents = compiled.tree.toUTF8 := by
    obtain ⟨-, compiled', success', rfl⟩ := (h.mem_files_iff treeOnly inside).1 written
    obtain rfl := Except.ok.inj (success.symm.trans success')
    rfl
  have inner := h.ne_nil_of_mem_files inside written
  rw [h.analyzeInputs_files sub, h.analyzeInput_apply inside s.output,
    get?_putFiles_flatMap inner written, get?_putFiles_of_mem inner written own]
  intro other later contents written'
  rcases List.mem_cons.1 later with rfl | later
  · exact own contents written'
  · have inside' : other ∈ inputs := sub (by simp [later])
    exact absurd ((h.mem_files_iff treeOnly inside').1 written').1 (others other later)

/-- The inputs of a batch are isolated. -/
theorem IsBatch.isIsolated (h : IsBatch s.files options.destination inputs d D) :
    IsIsolated options inputs s where
  results order sub := by
    rw [analyzeAll_apply (h.isReady.mono sub) (.refl _ s.files)]
    refine List.map_congr_left fun input inside => ?_
    obtain ⟨stem, source⟩ := h.source input (sub inside)
    rw [source.analyzeFile_apply (h.ready input (sub inside)) (.refl _ s.files)]
  reported toFiles input inside := by
    rw [analyzeInput_eq toFiles, map_apply, Machine.embedsWrites_onFiles.analyzeFile,
      Machine.onFiles_apply]
  turns order sub turn inside := by
    rw [(h.isReady.mono sub).outcome_turn (.refl _ s.files) inside,
      h.analyzeInput_apply (sub (Turn.input_mem inside))]
  outcomes reliable order sub := by
    have alone : ∀ turn ∈ CommandLine.turns options s order, turn.outcome options =
        (analyzeInput (m := StateM Machine) options turn.input s).1 := by
      intro turn inside
      have ready := h.isReady.mono sub
      rw [ready.outcome_turn (.refl _ s.files) inside,
        h.analyzeInput_apply (sub (Turn.input_mem inside)) s.output]
      exact (ready.isReliable_turn (.refl _ s.files) reliable inside).outcome_eq reliable _ _
    rw [analyzeInputs_fst, List.map_congr_left alone]
    conv_rhs => rw [← map_input_turns options s order]
    rw [List.map_map]
    rfl
  own treeOnly input inside l changed := by
    rw [h.analyzeInput_apply inside s.output] at changed
    obtain ⟨contents, written, -⟩ := exists_of_get?_putFiles_ne changed
    exact ((h.mem_files_iff treeOnly inside).1 written).1
  last treeOnly before input after sub l := h.get?_of_last treeOnly sub
  untouched treeOnly order sub l never := by
    rw [h.analyzeInputs_files sub]
    by_contra changed
    obtain ⟨contents, written, -⟩ := exists_of_get?_putFiles_ne changed
    obtain ⟨input, inside, written⟩ := List.mem_flatMap.1 written
    exact never input inside ((h.mem_files_iff treeOnly (sub inside)).1 written).1
  changes treeOnly order sub distinct l entry := by
    have alone : (∃ input ∈ order, s.files.IsNew
          (analyzeInput (m := StateM Machine) options input s).2.files l entry) ↔
        ∃ input ∈ order, s.files.IsNew (s.files.putFiles (options.files s.files input)) l entry :=
      exists_congr fun input => and_congr_right fun inside => by
        rw [h.analyzeInput_apply (sub inside) s.output]
    rw [alone, h.analyzeInputs_files sub]
    refine isNew_putFiles_flatMap (fun input inside file => h.ne_nil_of_mem_files (sub inside)) ?_ l
      entry
    intro input inside other inside' l contents contents' written written'
    obtain ⟨writes, compiled, success, rfl⟩ := (h.mem_files_iff treeOnly (sub inside)).1 written
    obtain ⟨writes', compiled', success', rfl⟩ :=
      (h.mem_files_iff treeOnly (sub inside')).1 written'
    obtain rfl := distinct input inside other inside'
      (h.shownStem_eq_of_locate (sub inside) (sub inside') writes.place writes'.place)
    obtain rfl := Except.ok.inj (success.symm.trans success')
    rfl
  apart input inside other inside' l := h.shownStem_eq_of_locate inside inside'
  texts := h.haveDistinctStems

end JackSyntax.CommandLine
