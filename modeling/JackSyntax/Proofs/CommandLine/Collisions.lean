/-
**When an output of a batch is lost.**

The outputs of an input are named after its stem as it is shown, the token listing with a `T` behind
it.  The inputs of a batch have their outputs in one directory, so two outputs have the same path if
their names are the same, and the later one is written over the earlier one.

Stems that are shown alike make such a pair, and so do two stems of which one is shown as the other
with a `T` behind it, if tokens are listed.  If all names are texts, only the second happens: the
input with the longer stem comes later, since a dot precedes the letter, and so its tree is written
over the listing of the other.  Nothing else is ever lost.

Main definitions:

* `Options.outputs` — the outputs of an input: their paths and their texts;
* `Shadows` — an input whose tree has the name of the listing of another;
* `IsClear` — no two outputs have the same name;
* `IsKept` — no output of a batch is lost;
* `KeepsOutputs` — which outputs of a batch are there in the end.

Main results:

* `IsBatch.outputPath_eq_iff` — when two outputs have the same path;
* `IsBatch.find?_of_last` — **the last output with a path is there in the end**;
* `IsBatch.find?_tree`, `IsBatch.find?_listing_iff` — the trees and listings that are there if all
  names are texts;
* `IsBatch.isKept_iff` — a batch keeps its outputs if it is clear, and only then;
* `outputs_kept_iff` — **which outputs of a batch are lost**.
-/

import Mathlib.Data.List.Flatten
import Mathlib.Data.List.Pairwise
import JackSyntax.Proofs.CommandLine.Accounts
import JackSyntax.Proofs.Parsing.Outputs

set_option relaxedAutoImplicit false
set_option autoImplicit false

namespace JackSyntax

open FileSystem

/-! ### Names in order, and texts -/

/-- A dot precedes the letter that is put behind the stem of a listing. -/
theorem sourceName_lt_sourceName (stem : Bytes) :
    sourceName stem < sourceName (stem ++ bytesOf "T") := by
  simp only [sourceName, List.append_assoc]
  induction stem with
  | nil => decide
  | cons byte stem ih => exact List.cons_lt_cons_iff.2 (Or.inr ⟨rfl, ih⟩)

theorem ne_append_letter (shown : String) : shown ≠ shown ++ "T" := by
  intro same
  have long := congrArg String.length same
  simp at long

/-- The texts that a source gives. -/
theorem texts_of_compile {withTokens : Bool} {source : String} {compiled : Compiled}
    (h : compile withTokens source = .ok compiled) :
    (∃ trees, compiled.tree = unlines (elementLines "class" trees)) ∧
      ∀ listing, compiled.tokens = some listing →
        ∃ trees, listing = unlines (elementLines "tokens" trees) := by
  rw [compile_eq_map] at h
  cases parsed : parse source with
  | error error =>
      rw [parsed] at h
      cases h
  | ok text =>
      rw [parsed] at h
      obtain rfl := Except.ok.inj h
      obtain ⟨trees, -, same⟩ := exists_trees_of_parse parsed
      refine ⟨⟨trees, same⟩, fun listing listed => ?_⟩
      obtain ⟨listing', listed', -⟩ := tokenListing_of_parse parsed
      obtain ⟨tokens, -, same'⟩ := (tokenListing_eq_ok_iff ..).1 listed'
      rw [listed'] at listed
      split at listed
      · exact ⟨tokens.map .leaf, (Option.some.inj listed).symm.trans same'⟩
      · cases listed

/-- No tree is the listing of any source: the first lines differ. -/
theorem tree_ne_listing {withTokens withTokens' : Bool} {source source' : String}
    {compiled compiled' : Compiled} {listing : String}
    (h : compile withTokens source = .ok compiled)
    (h' : compile withTokens' source' = .ok compiled') (listed : compiled'.tokens = some listing) :
    compiled.tree.toUTF8 ≠ listing.toUTF8 := by
  obtain ⟨⟨trees, tree⟩, -⟩ := texts_of_compile h
  obtain ⟨trees', rfl⟩ := (texts_of_compile h').2 listing listed
  intro same
  have second := congrArg (fun text => text.toList[1]?) (String.toByteArray_inj.1 same)
  simp [tree, elementLines, unlines] at second

namespace CommandLine

variable {fs fs₁ after : FileSystem} {s : Machine} {out : StandardOutput} {options : Options}
  {inputs : List Path} {input other : Path} {stem : Bytes} {suffix suffix' text text' : String}
  {d D l : Location} {compiled compiled' : Compiled}

/-! ### What a batch leaves -/

/-- The outputs of an input: their paths and their texts. -/
def Options.outputs (options : Options) (fs : FileSystem) (input : Path) : List (Path × String) :=
  match (compileFile (m := StateM FileSystem) options.withTokens input fs).1 with
  | .ok compiled => compiled.outputs input options.destination.directory?
  | .error _ => []

/-- An input whose tree has the name of the listing of another. -/
def Shadows (other input : Path) : Prop := other.shownStem = input.shownStem ++ "T"

/-- No two outputs have the same name. -/
structure IsClear (options : Options) (inputs : List Path) : Prop where
  distinct : HaveDistinctStems inputs
  /-- No listing that is asked for is shadowed. -/
  unshadowed : options.withTokens = true → ∀ input ∈ inputs, ∀ other ∈ inputs, ¬ Shadows other input

/-- No output is lost: the paths are distinct, and each leads to the text of its own input. -/
structure IsKept (options : Options) (inputs : List Path) (fs after : FileSystem) : Prop where
  distinct : ((inputs.flatMap (options.outputs fs)).map Prod.fst).Nodup
  held : ∀ input ∈ inputs, ∀ output ∈ options.outputs fs input,
    after.find? output.1 = some (.file output.2.toUTF8)

/-- The names of inputs are texts. -/
def HaveTextNames (inputs : List Path) : Prop :=
  ∀ input ∈ inputs, IsText (input.fileName?.getD [])

/-- Which outputs of a batch are there in the end. -/
structure KeepsOutputs (options : Options) (inputs : List Path) (fs after : FileSystem) : Prop where
  /-- Every input has its tree, and its listing if tokens are listed. -/
  compiled : ∀ input ∈ inputs, ∃ compiled,
    compileFile (m := StateM FileSystem) options.withTokens input fs = (.ok compiled, fs) ∧
      compiled.tokens.isSome = options.withTokens
  /-- Outputs have the same path if they have the same name. -/
  paths : ∀ input ∈ inputs, ∀ other ∈ inputs, ∀ suffix ∈ ["", "T"], ∀ suffix' ∈ ["", "T"],
    outputPath input options.destination.directory? suffix =
        outputPath other options.destination.directory? suffix' ↔
      input.shownStem ++ suffix = other.shownStem ++ suffix'
  /-- An output is there in the end if no later input has one with the same path. -/
  last : ∀ earlier input later, inputs = earlier ++ input :: later →
    ∀ output ∈ options.outputs fs input,
      (∀ other ∈ later, ∀ output' ∈ options.outputs fs other, output'.1 ≠ output.1) →
        after.find? output.1 = some (.file output.2.toUTF8)
  /-- If all names are texts, no two stems are shown alike. -/
  stems : HaveTextNames inputs → HaveDistinctStems inputs
  /-- If all names are texts, every tree is there in the end. -/
  trees : HaveTextNames inputs → ∀ input ∈ inputs, ∀ compiled,
    compileFile (m := StateM FileSystem) options.withTokens input fs = (.ok compiled, fs) →
      after.find? (outputPath input options.destination.directory? "") =
        some (.file compiled.tree.toUTF8)
  /-- If all names are texts, every listing is there in the end that is not shadowed. -/
  listings : HaveTextNames inputs → ∀ input ∈ inputs, ∀ compiled listing,
    compileFile (m := StateM FileSystem) options.withTokens input fs = (.ok compiled, fs) →
      compiled.tokens = some listing →
        (after.find? (outputPath input options.destination.directory? "T") =
            some (.file listing.toUTF8) ↔ ∀ other ∈ inputs, ¬ Shadows other input)
  /-- Nothing is lost if no two outputs have the same name, and only then. -/
  kept_iff : IsKept options inputs fs after ↔ IsClear options inputs

/-! ### Outputs and their paths -/

/-- Inputs that succeed are compiled. -/
theorem compiles_of_succeeded (toFiles : options.destination ≠ .standardOutput)
    (succeeded : ∀ input ∈ inputs, (options.outcome fs out input).succeeded = true) :
    ∀ input ∈ inputs, ∃ compiled, fs.compiled options.withTokens input = .ok compiled :=
  fun input inside =>
    (exists_compiled_of_succeeded toFiles (succeeded input inside)).imp fun _ both => both.1

/-- The outputs of an input that is compiled. -/
theorem Options.outputs_eq (success : fs.compiled options.withTokens input = .ok compiled) :
    options.outputs fs input = compiled.outputs input options.destination.directory? := by
  rw [Options.outputs, compileFile_apply, success]

/-- An output of an input is one of its texts, at its path. -/
theorem Options.mem_outputs_iff (success : fs.compiled options.withTokens input = .ok compiled)
    {output : Path × String} : output ∈ options.outputs fs input ↔
      ∃ suffix, compiled.Gives suffix output.2 ∧
        output.1 = outputPath input options.destination.directory? suffix := by
  rw [Options.outputs_eq success, Compiled.mem_outputs_iff]

/-- Only what the input is compiled to matters. -/
theorem Options.outputs_congr {fs' : FileSystem}
    (same : fs'.compiled options.withTokens input = fs.compiled options.withTokens input) :
    options.outputs fs' input = options.outputs fs input := by
  rw [Options.outputs, Options.outputs, compileFile_apply, compileFile_apply, same]

/-- Outputs of a batch have the same path if they have the same name. -/
theorem IsBatch.outputPath_eq_iff (h : IsBatch fs options.destination inputs d D)
    (inside : input ∈ inputs) (inside' : other ∈ inputs) (noSlash : '/' ∉ suffix.toList)
    (noSlash' : '/' ∉ suffix'.toList) :
    outputPath input options.destination.directory? suffix =
        outputPath other options.destination.directory? suffix' ↔
      input.shownStem ++ suffix = other.shownStem ++ suffix' := by
  obtain ⟨stem, source⟩ := h.source input inside
  obtain ⟨stem', source'⟩ := h.source other inside'
  have home : outputHome input options.destination.directory? =
      outputHome other options.destination.directory? := by
    rw [outputHome, outputHome, h.home input inside other inside']
  rw [outputPath_eq_join source.fileName?, outputPath_eq_join source'.fileName?, home]
  constructor
  · intro same
    have names := congrArg Path.fileName? same
    rw [source.shownStem, source'.shownStem] at names ⊢
    rw [Path.fileName?_join _ (isPlain_outputName source.isPlain noSlash),
      Path.fileName?_join _ (isPlain_outputName source'.isPlain noSlash')] at names
    exact outputName_inj.1 (Option.some.inj names)
  · intro same
    rw [outputName_inj.2 same]

/-- The suffix of a text holds no slash. -/
theorem slash_not_mem_of_gives (given : compiled.Gives suffix text) : '/' ∉ suffix.toList := by
  obtain ⟨rfl, -⟩ | ⟨rfl, -⟩ := given <;> decide

/-- The texts of two inputs have the same path only if their names are the same. -/
theorem IsBatch.append_eq_of_outputPath_eq (h : IsBatch fs options.destination inputs d D)
    (inside : input ∈ inputs) (inside' : other ∈ inputs) (given : compiled.Gives suffix text)
    (given' : compiled'.Gives suffix' text')
    (same : outputPath input options.destination.directory? suffix =
      outputPath other options.destination.directory? suffix') :
    input.shownStem ++ suffix = other.shownStem ++ suffix' :=
  (h.outputPath_eq_iff inside inside' (slash_not_mem_of_gives given)
    (slash_not_mem_of_gives given')).1 same

theorem mem_of_later {earlier later : List Path} (place : inputs = earlier ++ input :: later)
    (behind : other ∈ later) : other ∈ inputs :=
  place ▸ List.mem_append_right _ (List.mem_cons_of_mem _ behind)

/-- An input of a batch precedes those that come later. -/
theorem IsBatch.precedes_of_later (h : IsBatch fs options.destination inputs d D)
    {earlier later : List Path} (place : inputs = earlier ++ input :: later)
    (behind : other ∈ later) :
    input.Precedes other := by
  have ordered := h.ordered
  rw [place, List.pairwise_append] at ordered
  exact (List.pairwise_cons.1 ordered.2.1).1 other behind

/-! ### The last output with a path -/

/-- The place at which a text of an input is written. -/
theorem IsBatch.exists_written (h : IsBatch fs options.destination inputs d D)
    (toFiles : options.destination ≠ .standardOutput)
    (succeeded : (options.outcome fs out input).succeeded = true) (inside : input ∈ inputs)
    (success : fs.compiled options.withTokens input = .ok compiled)
    (given : compiled.Gives suffix text) :
    ∃ n : FileName, n.bytes = outputName input.shownStem suffix ∧
      fs.locate (outputPath input options.destination.directory? suffix) = .ok (n :: D) ∧
      (n :: D, text.toUTF8) ∈ options.files fs input := by
  obtain ⟨stem, source⟩ := h.source input inside
  obtain ⟨compiled', success', written⟩ := exists_compiled_of_succeeded toFiles succeeded
  obtain rfl := Except.ok.inj (success.symm.trans success')
  obtain ⟨l, placed, written⟩ := written
    (outputPath input options.destination.directory? suffix, text)
    (Compiled.mem_outputs_iff.2 ⟨suffix, given, rfl⟩)
  rw [source.outputPath_eq] at placed ⊢
  obtain ⟨n, name, rfl, -, located⟩ :=
    target_join_eq_ok (h.ready input inside) (given.isPlain source.isPlain) placed
  exact ⟨n, source.shownStem ▸ name, located, written⟩

/-- A file that is written for an input of a batch is one of its texts, under its name. -/
theorem IsBatch.exists_of_mem_files (h : IsBatch fs options.destination inputs d D)
    (inside : input ∈ inputs) {n : FileName} {contents : ByteArray}
    (written : (n :: D, contents) ∈ options.files fs input) :
    ∃ compiled suffix text, fs.compiled options.withTokens input = .ok compiled ∧
      compiled.Gives suffix text ∧ contents = text.toUTF8 ∧
      n.bytes = outputName input.shownStem suffix := by
  obtain ⟨stem, source⟩ := h.source input inside
  rw [Options.files_of_toFiles (Options.toFiles_of_mem_files written)] at written
  obtain ⟨compiled, suffix, text, success, given, contents, -, -, n', name, place⟩ :=
    source.exists_of_mem_analysis (h.ready input inside) written
  obtain ⟨rfl, -⟩ := List.cons_eq_cons.1 place
  exact ⟨compiled, suffix, text, success, given, contents, source.shownStem ▸ name⟩

/-- **The last output with a path is there in the end.** -/
theorem IsBatch.find?_of_last (h : IsBatch s.files options.destination inputs d D)
    (toFiles : options.destination ≠ .standardOutput)
    (succeeded : (options.outcome s.files out input).succeeded = true) {earlier later : List Path}
    (place : inputs = earlier ++ input :: later)
    (success : s.files.compiled options.withTokens input = .ok compiled)
    (given : compiled.Gives suffix text)
    (last : ∀ other ∈ later, ∀ compiled' suffix' text',
      s.files.compiled options.withTokens other = .ok compiled' → compiled'.Gives suffix' text' →
        other.shownStem ++ suffix' ≠ input.shownStem ++ suffix) :
    (analyzeInputs (m := StateM Machine) options inputs s).2.files.find?
        (outputPath input options.destination.directory? suffix) = some (.file text.toUTF8) := by
  have inside : input ∈ inputs := place ▸ List.mem_append_right _ List.mem_cons_self
  obtain ⟨n, name, located, written⟩ :=
    h.exists_written toFiles succeeded inside success given
  have left := h.isReady.analyzeInputs_files (.refl _ s.files)
  have kept : s.files.HasWritten (analyzeInputs (m := StateM Machine) options inputs s).2.files :=
    h.isReady.hasWritten_analyzeInputs (.refl _ s.files)
  refine find?_eq_some_iff.2 ⟨n :: D, locate_mono kept.keepsDirectories located, ?_⟩
  rw [left, place]
  refine get?_putFiles_flatMap (List.cons_ne_nil _ _) written ?_
  intro other behind contents written'
  have inside' : other ∈ inputs := place ▸ List.mem_append_right _ behind
  obtain ⟨compiled', suffix', text', success', given', rfl, name'⟩ :=
    h.exists_of_mem_files inside' written'
  have same := outputName_inj.1 (name'.symm.trans name)
  rcases List.mem_cons.1 behind with rfl | behind
  · -- the suffixes are the same, and so are the texts
    obtain rfl : suffix' = suffix := by simpa using same
    obtain rfl := Except.ok.inj (success.symm.trans success')
    rw [given.unique given']
  · exact absurd same (last other behind compiled' suffix' text' success' given')

/-! ### Names that are texts -/

/-- The stem of an input is the text as which it is shown, if the name of the input is a text. -/
theorem IsBatch.source_of_text (h : IsBatch fs options.destination inputs d D)
    (texts : HaveTextNames inputs) (inside : input ∈ inputs) :
    fs.HasSource input (bytesOf input.shownStem) d := by
  obtain ⟨stem, source⟩ := h.source input inside
  have named := texts input inside
  rw [source.fileName?, Option.getD_some] at named
  rw [source.shownStem, (isText_of_append_cons (by decide) named).1.bytesOf_lossy]
  exact source

/-- Among inputs whose names are texts, the listing of a later one does not have the name of the
tree of an earlier one. -/
theorem IsBatch.not_shadows_of_later (h : IsBatch fs options.destination inputs d D)
    (texts : HaveTextNames inputs) (inside : input ∈ inputs) (inside' : other ∈ inputs)
    (precedes : input.Precedes other) : ¬ Shadows input other := by
  intro shadows
  have source := h.source_of_text texts inside
  have source' := h.source_of_text texts inside'
  rw [Path.Precedes, source.fileName?, source'.fileName?, Option.getD_some, Option.getD_some,
    show input.shownStem = _ from shadows, bytesOf_append] at precedes
  exact List.lt_irrefl _ (List.lt_trans precedes (sourceName_lt_sourceName _))

/-- **Every tree is there in the end if all names are texts.** -/
theorem IsBatch.find?_tree (h : IsBatch s.files options.destination inputs d D)
    (toFiles : options.destination ≠ .standardOutput)
    (succeeded : (options.outcome s.files out input).succeeded = true)
    (texts : HaveTextNames inputs) (inside : input ∈ inputs)
    (success : s.files.compiled options.withTokens input = .ok compiled) :
    (analyzeInputs (m := StateM Machine) options inputs s).2.files.find?
        (outputPath input options.destination.directory? "") =
      some (.file compiled.tree.toUTF8) := by
  obtain ⟨earlier, later, place⟩ := List.append_of_mem inside
  refine h.find?_of_last toFiles succeeded place success (Or.inl ⟨rfl, rfl⟩) ?_
  intro other behind compiled' suffix' text' success' given' same
  have inside' := mem_of_later place behind
  have precedes := h.precedes_of_later place behind
  rw [String.append_empty] at same
  obtain ⟨rfl, -⟩ | ⟨rfl, -⟩ := given'
  · rw [String.append_empty] at same
    exact precedes.ne (h.haveDistinctStems texts input inside other inside' same.symm)
  · exact h.not_shadows_of_later texts inside inside' precedes same.symm

/-- **A listing is there in the end unless it is shadowed, if all names are texts.** -/
theorem IsBatch.find?_listing_iff (h : IsBatch s.files options.destination inputs d D)
    (toFiles : options.destination ≠ .standardOutput)
    (succeeded : ∀ input ∈ inputs, (options.outcome s.files out input).succeeded = true)
    (texts : HaveTextNames inputs) (inside : input ∈ inputs)
    (success : s.files.compiled options.withTokens input = .ok compiled) {listing : String}
    (listed : compiled.tokens = some listing) :
    (analyzeInputs (m := StateM Machine) options inputs s).2.files.find?
        (outputPath input options.destination.directory? "T") = some (.file listing.toUTF8) ↔
      ∀ other ∈ inputs, ¬ Shadows other input := by
  constructor
  · intro held other inside' shadows
    -- the tree of the other input is there instead
    obtain ⟨compiled', success', -⟩ :=
      exists_compiled_of_succeeded toFiles (succeeded other inside')
    have tree := h.find?_tree toFiles (succeeded other inside') texts inside' success'
    rw [(h.outputPath_eq_iff inside' inside (by decide) (by decide)).2
      ((String.append_empty).trans shadows), held] at tree
    obtain ⟨source, compiledFrom⟩ := exists_compile_eq_ok success
    obtain ⟨source', compiledFrom'⟩ := exists_compile_eq_ok success'
    exact tree_ne_listing compiledFrom' compiledFrom listed
      (Entry.file.inj (Option.some.inj tree)).symm
  · intro clear
    obtain ⟨earlier, later, place⟩ := List.append_of_mem inside
    refine h.find?_of_last toFiles (succeeded input inside) place success (Or.inr ⟨rfl, listed⟩) ?_
    intro other behind compiled' suffix' text' success' given' same
    have inside' := mem_of_later place behind
    obtain ⟨rfl, -⟩ | ⟨rfl, -⟩ := given'
    · exact clear other inside' ((String.append_empty).symm.trans same)
    · exact (h.precedes_of_later place behind).ne
        (h.haveDistinctStems texts input inside other inside' (by simpa using same.symm))

/-! ### Batches that keep all outputs -/

/-- In a clear batch, outputs with the same path belong to the same input and have the same
suffix. -/
theorem IsClear.eq_of_append_eq (clear : IsClear options inputs) (inside : input ∈ inputs)
    (inside' : other ∈ inputs) (success : fs.compiled options.withTokens input = .ok compiled)
    (success' : fs.compiled options.withTokens other = .ok compiled')
    (given : compiled.Gives suffix text) (given' : compiled'.Gives suffix' text')
    (same : input.shownStem ++ suffix = other.shownStem ++ suffix') :
    input = other ∧ suffix = suffix' := by
  obtain ⟨rfl, -⟩ | ⟨rfl, tokens⟩ := given
  · obtain ⟨rfl, -⟩ | ⟨rfl, tokens'⟩ := given'
    · exact ⟨clear.distinct input inside other inside' (by simpa using same), rfl⟩
    · rw [String.append_empty] at same
      exact absurd same
        (clear.unshadowed (withTokens_of_listed success' tokens') other inside' input inside)
  · obtain ⟨rfl, -⟩ | ⟨rfl, -⟩ := given'
    · rw [String.append_empty] at same
      exact absurd same.symm
        (clear.unshadowed (withTokens_of_listed success tokens) input inside other inside')
    · exact ⟨clear.distinct input inside other inside' (by simpa using same), rfl⟩

/-- The paths of the outputs are distinct if the batch is clear. -/
theorem IsBatch.nodup_outputs (h : IsBatch fs options.destination inputs d D)
    (success : ∀ input ∈ inputs, ∃ compiled, fs.compiled options.withTokens input = .ok compiled)
    (clear : IsClear options inputs) :
    ((inputs.flatMap (options.outputs fs)).map Prod.fst).Nodup := by
  rw [List.map_flatMap, List.nodup_flatMap]
  constructor
  · intro input inside
    obtain ⟨compiled, success⟩ := success input inside
    rw [Options.outputs_eq success, Compiled.outputs]
    cases tokens : compiled.tokens with
    | none => simp
    | some listing =>
        have apart : outputPath input options.destination.directory? "" ≠
            outputPath input options.destination.directory? "T" := fun equal =>
          absurd ((h.outputPath_eq_iff inside inside (by decide) (by decide)).1 equal)
            (by simpa using ne_append_letter input.shownStem)
        simpa using apart
  · refine h.ordered.imp_of_mem fun {input other} inside inside' precedes path listed listed' => ?_
    obtain ⟨compiled, success₁⟩ := success input inside
    obtain ⟨compiled', success₂⟩ := success other inside'
    obtain ⟨output, found, rfl⟩ := List.mem_map.1 listed
    obtain ⟨output', found', equal⟩ := List.mem_map.1 listed'
    obtain ⟨suffix, given, path⟩ := (Options.mem_outputs_iff success₁).1 found
    obtain ⟨suffix', given', path'⟩ := (Options.mem_outputs_iff success₂).1 found'
    rw [path, path'] at equal
    have names := h.append_eq_of_outputPath_eq inside inside' given given' equal.symm
    exact precedes.ne (clear.eq_of_append_eq inside inside' success₁ success₂ given given' names).1

/-- If the paths of the outputs are distinct, different inputs have different paths. -/
theorem ne_of_nodup_outputs (distinct : ((inputs.flatMap (options.outputs fs)).map Prod.fst).Nodup)
    (inside : input ∈ inputs) (inside' : other ∈ inputs) (differ : input ≠ other)
    {output output' : Path × String} (listed : output ∈ options.outputs fs input)
    (listed' : output' ∈ options.outputs fs other) : output.1 ≠ output'.1 := by
  intro same
  rw [List.map_flatMap, List.nodup_flatMap] at distinct
  have symmetric : Std.Symm (Function.onFun List.Disjoint
      fun input => (options.outputs fs input).map Prod.fst) :=
    ⟨fun _ _ apart _ there here => apart here there⟩
  exact distinct.2.forall inside inside' differ (List.mem_map_of_mem listed)
    (same ▸ List.mem_map_of_mem listed')

/-- If the paths of the outputs are distinct, the batch is clear. -/
theorem IsBatch.isClear_of_nodup (h : IsBatch fs options.destination inputs d D)
    (success : ∀ input ∈ inputs, ∃ compiled, fs.compiled options.withTokens input = .ok compiled)
    (distinct : ((inputs.flatMap (options.outputs fs)).map Prod.fst).Nodup) :
    IsClear options inputs := by
  have tree {input : Path} (inside : input ∈ inputs) : ∃ text,
      (outputPath input options.destination.directory? "", text) ∈ options.outputs fs input := by
    obtain ⟨compiled, success⟩ := success input inside
    exact ⟨compiled.tree, (Options.mem_outputs_iff success).2 ⟨"", Or.inl ⟨rfl, rfl⟩, rfl⟩⟩
  constructor
  · intro input inside other inside' same
    by_contra differ
    obtain ⟨text, listed⟩ := tree inside
    obtain ⟨text', listed'⟩ := tree inside'
    exact ne_of_nodup_outputs distinct inside inside' differ listed listed'
      ((h.outputPath_eq_iff inside inside' (by decide) (by decide)).2 (by rw [same]))
  · intro listings input inside other inside' shadows
    have differ : other ≠ input := by
      rintro rfl
      exact ne_append_letter _ shadows
    obtain ⟨text, listed⟩ := tree inside'
    obtain ⟨compiled, success⟩ := success input inside
    obtain ⟨listing, tokens⟩ := Option.isSome_iff_exists.1
      ((isSome_tokens_of_compiled success).trans listings)
    have listed' : (outputPath input options.destination.directory? "T", listing) ∈
        options.outputs fs input :=
      (Options.mem_outputs_iff success).2 ⟨"T", Or.inr ⟨rfl, tokens⟩, rfl⟩
    exact ne_of_nodup_outputs distinct inside' inside differ listed listed'
      ((h.outputPath_eq_iff inside' inside (by decide) (by decide)).2
        ((String.append_empty).trans shadows))

/-- **A batch keeps its outputs if it is clear**, and only then. -/
theorem IsBatch.isKept_iff (h : IsBatch s.files options.destination inputs d D)
    (toFiles : options.destination ≠ .standardOutput)
    (succeeded : ∀ input ∈ inputs, (options.outcome s.files out input).succeeded = true) :
    IsKept options inputs s.files
        (analyzeInputs (m := StateM Machine) options inputs s).2.files ↔
      IsClear options inputs := by
  have compiles := compiles_of_succeeded toFiles succeeded
  refine ⟨fun kept => h.isClear_of_nodup compiles kept.distinct, fun clear => ?_⟩
  refine ⟨h.nodup_outputs compiles clear, fun input inside output listed => ?_⟩
  obtain ⟨compiled, success⟩ := compiles input inside
  obtain ⟨path, text⟩ := output
  obtain ⟨suffix, given, path⟩ := (Options.mem_outputs_iff success).1 listed
  obtain rfl := path
  obtain ⟨earlier, later, place⟩ := List.append_of_mem inside
  refine h.find?_of_last toFiles (succeeded input inside) place success given ?_
  intro other behind compiled' suffix' text' success' given' same
  have inside' := mem_of_later place behind
  exact (h.precedes_of_later place behind).ne
    (clear.eq_of_append_eq inside inside' success success' given given' same.symm).1

/-- Which outputs of a batch are there in the end, if every input succeeds. -/
theorem IsBatch.keepsOutputs (h : IsBatch s.files options.destination inputs d D)
    (toFiles : options.destination ≠ .standardOutput)
    (succeeded : ∀ input ∈ inputs, (options.outcome s.files out input).succeeded = true) :
    KeepsOutputs options inputs s.files
      (analyzeInputs (m := StateM Machine) options inputs s).2.files := by
  have compiles := compiles_of_succeeded toFiles succeeded
  have success {input : Path} {compiled : Compiled}
      (compiles : compileFile (m := StateM FileSystem) options.withTokens input s.files =
        (.ok compiled, s.files)) : s.files.compiled options.withTokens input = .ok compiled := by
    rw [compileFile_apply] at compiles
    exact congrArg Prod.fst compiles
  refine ⟨fun input inside => ?_, fun input inside other inside' suffix some suffix' some' => ?_,
    fun earlier input later place output listed apart => ?_, h.haveDistinctStems, ?_, ?_,
    h.isKept_iff toFiles succeeded⟩
  · obtain ⟨compiled, success⟩ := compiles input inside
    exact ⟨compiled, by rw [compileFile_apply, success], isSome_tokens_of_compiled success⟩
  · refine h.outputPath_eq_iff inside inside' ?_ ?_
    · rcases List.mem_pair.1 some with rfl | rfl <;> decide
    · rcases List.mem_pair.1 some' with rfl | rfl <;> decide
  · have inside : input ∈ inputs := place ▸ List.mem_append_right _ List.mem_cons_self
    obtain ⟨compiled, success⟩ := compiles input inside
    obtain ⟨path, text⟩ := output
    obtain ⟨suffix, given, path⟩ := (Options.mem_outputs_iff success).1 listed
    obtain rfl := path
    refine h.find?_of_last toFiles (succeeded input inside) place success given ?_
    intro other behind compiled' suffix' text' success' given' same
    have inside' := mem_of_later place behind
    refine apart other behind (outputPath other options.destination.directory? suffix', text')
      ((Options.mem_outputs_iff success').2 ⟨suffix', given', rfl⟩) ?_
    exact (h.outputPath_eq_iff inside' inside (slash_not_mem_of_gives given')
      (slash_not_mem_of_gives given)).2 same
  · exact fun texts input inside compiled compiles =>
      h.find?_tree toFiles (succeeded input inside) texts inside (success compiles)
  · exact fun texts input inside compiled listing compiles =>
      h.find?_listing_iff toFiles succeeded texts inside (success compiles)

/-! ### Where directories are made -/

/-- Only what the inputs are compiled to matters. -/
theorem IsKept.congr {fs' : FileSystem}
    (same : ∀ input ∈ inputs,
      fs'.compiled options.withTokens input = fs.compiled options.withTokens input)
    (kept : IsKept options inputs fs after) : IsKept options inputs fs' after := by
  have outputs : ∀ input ∈ inputs, options.outputs fs' input = options.outputs fs input :=
    fun input inside => Options.outputs_congr (same input inside)
  refine ⟨?_, fun input inside output listed => ?_⟩
  · rw [List.flatMap_congr outputs]
    exact kept.distinct
  · exact kept.held input inside output (outputs input inside ▸ listed)

theorem KeepsOutputs.congr {fs' : FileSystem}
    (same : ∀ input ∈ inputs,
      fs'.compiled options.withTokens input = fs.compiled options.withTokens input)
    (keeps : KeepsOutputs options inputs fs after) : KeepsOutputs options inputs fs' after := by
  have outputs : ∀ input ∈ inputs, options.outputs fs' input = options.outputs fs input :=
    fun input inside => Options.outputs_congr (same input inside)
  have compiles {input : Path} (inside : input ∈ inputs) (compiled : Compiled) :
      compileFile (m := StateM FileSystem) options.withTokens input fs' = (.ok compiled, fs') ↔
        compileFile (m := StateM FileSystem) options.withTokens input fs = (.ok compiled, fs) := by
    rw [compileFile_apply, compileFile_apply, same input inside, Prod.mk.injEq, Prod.mk.injEq]
    simp
  exact {
    compiled := fun input inside => (keeps.compiled input inside).imp fun compiled =>
      And.imp_left (compiles inside compiled).2
    paths := keeps.paths
    last := fun earlier input later place output listed apart => by
      have inside : ∀ other ∈ input :: later, other ∈ inputs := fun other behind =>
        place ▸ List.mem_append_right _ behind
      refine keeps.last earlier input later place output
        (outputs input (inside input List.mem_cons_self) ▸ listed) fun other behind => ?_
      rw [← outputs other (inside other (List.mem_cons_of_mem _ behind))]
      exact apart other behind
    stems := keeps.stems
    trees := fun texts input inside compiled success =>
      keeps.trees texts input inside compiled ((compiles inside compiled).1 success)
    listings := fun texts input inside compiled listing success =>
      keeps.listings texts input inside compiled listing ((compiles inside compiled).1 success)
    kept_iff := by
      rw [← keeps.kept_iff]
      exact ⟨.congr fun input inside => (same input inside).symm, .congr same⟩ }

/-! ### Runs in which every input succeeds -/

/-- A run in which every input succeeds. -/
theorem exists_batch_of_exitCode {arguments : List Bytes}
    (accepted : parseArguments arguments = .ok (.analyze options))
    (directory : s.files.find? options.path = some .directory)
    (succeeded : (execute (m := StateM Machine) arguments s).1.exitCode = 0) :
    ∃ inputs fs₁ d D, Begins options s.files inputs fs₁ ∧
      IsBatch fs₁ options.destination inputs d D ∧
      (execute (m := StateM Machine) arguments s).2 =
        (analyzeInputs (m := StateM Machine) options inputs { s with files := fs₁ }).2 ∧
      ∀ turn ∈ turns options { s with files := fs₁ } inputs,
        Succeeds options fs₁ turn.machine.output turn.input := by
  rw [execute_eq_run accepted] at succeeded ⊢
  rcases run_cases options s with ⟨error, found, same⟩ |
    ⟨inputs, error, fs₁, found, prepared, same⟩ | ⟨inputs, fs₁, begins⟩
  · rw [same] at succeeded
    cases succeeded
  · rw [same] at succeeded
    cases succeeded
  · have named := isNamed_of_accepted accepted
    obtain ⟨d, D, batch⟩ := exists_isBatch directory (begins_iff.1 begins).1 named begins.2
    have ready : IsReady fs₁ options.destination inputs := batch.isReady
    refine ⟨inputs, fs₁, d, D, begins, batch, by rw [begins.run_apply], ?_⟩
    rw [begins.run_apply, (exitCode_ofOutcomes options.verbose _).2,
      ready.analyzeInputs_fst (.refl _ fs₁)] at succeeded
    exact failures_outcomes_eq_zero_iff.1 succeeded

/-- **Which outputs of a batch are lost**: if every input succeeds, the last output with a path is
there in the end, and nothing is lost if no two outputs have the same name, and only then. -/
theorem outputs_kept_iff {arguments : List Bytes}
    (accepted : parseArguments arguments = .ok (.analyze options))
    (directory : s.files.find? options.path = some .directory)
    (toFiles : options.destination ≠ .standardOutput)
    (succeeded : (execute (m := StateM Machine) arguments s).1.exitCode = 0) :
    ∃ inputs, inputsAt (m := StateM FileSystem) options.path s.files = (.ok inputs, s.files) ∧
      KeepsOutputs options inputs s.files (execute (m := StateM Machine) arguments s).2.files := by
  obtain ⟨inputs, fs₁, d, D, begins, batch, after, all⟩ :=
    exists_batch_of_exitCode accepted directory succeeded
  have made := changesBy_of_prepare begins.2
  have same : ∀ input ∈ inputs,
      fs₁.compiled options.withTokens input = s.files.compiled options.withTokens input :=
    fun input inside =>
      compiled_of_isMade made (isInput_of_mem_inputs (begins_iff.1 begins).1 inside) _
  have succeeds : ∀ input ∈ inputs,
      (options.outcome fs₁ s.output input).succeeded = true := by
    intro input inside
    rw [← map_input_turns options { s with files := fs₁ } inputs] at inside
    obtain ⟨turn, atTurn, rfl⟩ := List.mem_map.1 inside
    have success := all turn atTurn
    rw [← Options.error?_eq_none_iff, ← Option.isNone_iff_eq_none, ← Options.succeeded_outcome,
      Options.outcome_of_toFiles toFiles] at success
    rw [Options.outcome_of_toFiles toFiles]
    exact success
  rw [after]
  exact ⟨inputs, begins.1, KeepsOutputs.congr (fun input inside => (same input inside).symm)
    (IsBatch.keepsOutputs (s := { s with files := fs₁ }) batch toFiles succeeds)⟩

/-- A machine with two sources, of which the tree of one has the name of the listing of the
other. -/
def shadowedSources : Machine where
  files := ((FileSystem.empty []).put [⟨bytesOf "a.jack", rfl⟩]
    (.file "class a { }".toUTF8)).put [⟨bytesOf "aT.jack", rfl⟩]
      (.file "class aT { }".toUTF8)
  output := .fresh

/-- Without listings, nothing is lost. -/
theorem shadowed_trees_are_kept :
    parseArguments ["."] = .ok (.analyze ⟨⟨"."⟩, false, .beside, false⟩) ∧
      shadowedSources.files.find? ⟨"."⟩ = some .directory ∧
      (execute (m := StateM Machine) ["."] shadowedSources).1.exitCode = 0 ∧
      IsKept ⟨⟨"."⟩, false, .beside, false⟩ [⟨"./a.jack"⟩, ⟨"./aT.jack"⟩] shadowedSources.files
        (execute (m := StateM Machine) ["."] shadowedSources).2.files := by
  have accepted : parseArguments ["."] = .ok (.analyze ⟨⟨"."⟩, false, .beside, false⟩) := by
    decide +kernel
  have directory : shadowedSources.files.find? ⟨"."⟩ = some .directory := by decide +kernel
  have succeeded : (execute (m := StateM Machine) ["."] shadowedSources).1.exitCode = 0 := by
    decide +kernel
  have both : (inputsAt (m := StateM FileSystem) ⟨"."⟩ shadowedSources.files).1 =
      .ok [⟨"./a.jack"⟩, ⟨"./aT.jack"⟩] := by decide +kernel
  have distinct : HaveDistinctStems [⟨"./a.jack"⟩, ⟨"./aT.jack"⟩] := by
    unfold HaveDistinctStems
    decide +kernel
  obtain ⟨inputs, found, keeps⟩ := outputs_kept_iff accepted directory (by decide) succeeded
  obtain rfl := Except.ok.inj (both.symm.trans (congrArg Prod.fst found))
  exact ⟨accepted, directory, succeeded, keeps.kept_iff.2 ⟨distinct, nofun⟩⟩

/-- With listings, both sources are analyzed without an error, and the listing of the first is lost:
the tree of the second stands in its place. -/
theorem shadowed_listing_is_lost :
    parseArguments ["-t", "."] = .ok (.analyze ⟨⟨"."⟩, true, .beside, false⟩) ∧
      shadowedSources.files.find? ⟨"."⟩ = some .directory ∧
      (execute (m := StateM Machine) ["-t", "."] shadowedSources).1.exitCode = 0 ∧
      (inputsAt (m := StateM FileSystem) ⟨"."⟩ shadowedSources.files).1 =
        .ok [⟨"./a.jack"⟩, ⟨"./aT.jack"⟩] ∧
      (execute (m := StateM Machine) ["-t", "."] shadowedSources).2.files.find?
          (outputPath ⟨"./a.jack"⟩ none "T") =
        some (.file ("<class>\n\t<keyword> class </keyword>\n\t<identifier> aT </identifier>\n" ++
          "\t<symbol> \x7b </symbol>\n\t<symbol> \x7d </symbol>\n</class>\n").toUTF8) ∧
      ¬ IsKept ⟨⟨"."⟩, true, .beside, false⟩ [⟨"./a.jack"⟩, ⟨"./aT.jack"⟩] shadowedSources.files
        (execute (m := StateM Machine) ["-t", "."] shadowedSources).2.files := by
  refine ⟨by decide +kernel, by decide +kernel, by decide +kernel, by decide +kernel,
    by decide +kernel, fun kept => absurd kept.distinct (by decide +kernel)⟩

/-- A machine with two sources that have the bytes FF and FE as stems, which are no texts. -/
def unreadableStems : Machine where
  files := ((FileSystem.empty []).put [⟨0xff :: bytesOf ".jack", by decide⟩]
    (.file "class a { }".toUTF8)).put [⟨0xfe :: bytesOf ".jack", by decide⟩]
      (.file "class b { }".toUTF8)
  output := .fresh

/-- Both stems are shown as the same character, and the one output is the tree of the last
source. -/
example :
    (execute (m := StateM Machine) ["."] unreadableStems).1 = ⟨0, []⟩ ∧
      (execute (m := StateM Machine) ["."] unreadableStems).2.files.find? ⟨"./\uFFFD.xml"⟩ =
        some (.file ("<class>\n\t<keyword> class </keyword>\n\t<identifier> a </identifier>\n" ++
          "\t<symbol> \x7b </symbol>\n\t<symbol> \x7d </symbol>\n</class>\n").toUTF8) := by
  decide +kernel

end CommandLine

end JackSyntax
