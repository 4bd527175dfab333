/-
**Runs over several inputs.**

A run finds its inputs, makes the directory of the outputs, and analyzes the inputs one after the
other.  At its turn an input meets the files and the standard output that the inputs before it have
left.

Main definitions:

* `Turn`, `turns` — an input with the machine at its turn, and those of a run;
* `IsReady`, `IsBatch` — the inputs are source files, and the directories of their outputs are
  there;
* `Begins` — a run finds its inputs and makes the directory of its outputs.

Main results:

* `analyzeInputs_fst`, `turns_append` — the outcomes of a run are those of its turns;
* `changesBy_of_prepare`, `isReady_of_prepare` — after the preparation every input is ready;
* `run_apply`, `run_cases`, `Begins.run_apply` — a run in its three parts, and one that has begun.
-/

import JackSyntax.CommandLine.Run
import JackSyntax.Proofs.Analysis.Writes
import JackSyntax.Proofs.Files.Machines

set_option relaxedAutoImplicit false
set_option autoImplicit false

namespace JackSyntax

open FileSystem

namespace CommandLine

variable {fs fs₁ : FileSystem} {s : Machine} {options : Options} {input : Path} {stem : Bytes}
  {d D : Location} {inputs : List Path}

/-! ### Turns -/

/-- An input with the machine at its turn. -/
structure Turn where
  input : Path
  machine : Machine

/-- The turns of inputs that are analyzed one after the other. -/
def turns (options : Options) (s : Machine) : List Path → List Turn
  | [] => []
  | input :: inputs =>
      ⟨input, s⟩ :: turns options (analyzeInput (m := StateM Machine) options input s).2 inputs

/-- What an input contributes to a report at its turn. -/
def Turn.outcome (options : Options) (turn : Turn) : Outcome :=
  (analyzeInput (m := StateM Machine) options turn.input turn.machine).1

/-- The machine that an input leaves after its turn. -/
def Turn.leaves (options : Options) (turn : Turn) : Machine :=
  (analyzeInput (m := StateM Machine) options turn.input turn.machine).2

theorem analyzeInputs_cons_apply (options : Options) (input : Path) (inputs : List Path)
    (s : Machine) :
    analyzeInputs (m := StateM Machine) options (input :: inputs) s =
      ((analyzeInput (m := StateM Machine) options input s).1 ::
          (analyzeInputs (m := StateM Machine) options inputs
            (analyzeInput (m := StateM Machine) options input s).2).1,
        (analyzeInputs (m := StateM Machine) options inputs
          (analyzeInput (m := StateM Machine) options input s).2).2) := rfl

/-- The outcomes of inputs are those of their turns. -/
theorem analyzeInputs_fst (options : Options) (inputs : List Path) (s : Machine) :
    (analyzeInputs (m := StateM Machine) options inputs s).1 =
      (turns options s inputs).map (Turn.outcome options) := by
  induction inputs generalizing s with
  | nil => rfl
  | cons input inputs ih => rw [analyzeInputs_cons_apply, turns, List.map_cons, ih]; rfl

/-- Every input has its turn. -/
theorem map_input_turns (options : Options) (s : Machine) (inputs : List Path) :
    (turns options s inputs).map Turn.input = inputs := by
  induction inputs generalizing s with
  | nil => rfl
  | cons input inputs ih => rw [turns, List.map_cons, ih]

theorem length_turns (options : Options) (s : Machine) (inputs : List Path) :
    (turns options s inputs).length = inputs.length := by
  rw [← List.length_map (f := Turn.input), map_input_turns]

/-- Later turns begin with what the earlier ones leave. -/
theorem turns_append (options : Options) (s : Machine) (before after : List Path) :
    turns options s (before ++ after) =
      turns options s before ++
        turns options (analyzeInputs (m := StateM Machine) options before s).2 after := by
  induction before generalizing s with
  | nil => rfl
  | cons input before ih => rw [List.cons_append, turns, turns, ih]; rfl

/-- A turn is that of an input, after those before it. -/
theorem mem_turns_iff {turn : Turn} :
    turn ∈ turns options s inputs ↔ ∃ before after, inputs = before ++ turn.input :: after ∧
      turn.machine = (analyzeInputs (m := StateM Machine) options before s).2 := by
  constructor
  · intro inside
    induction inputs generalizing s with
    | nil => cases inside
    | cons input inputs ih =>
        rcases List.mem_cons.1 inside with rfl | inside
        · exact ⟨[], inputs, rfl, rfl⟩
        · obtain ⟨before, after, rfl, same⟩ := ih inside
          exact ⟨input :: before, after, rfl, same⟩
  · rintro ⟨before, after, rfl, same⟩
    obtain ⟨input, machine⟩ := turn
    obtain rfl : machine = _ := same
    rw [turns_append]
    exact List.mem_append_right _ List.mem_cons_self

theorem Turn.input_mem {turn : Turn} (h : turn ∈ turns options s inputs) : turn.input ∈ inputs := by
  rw [← map_input_turns options s inputs]
  exact List.mem_map_of_mem h

/-! ### Accepted command lines -/

/-- A directory that is given is not given without any bytes. -/
theorem Given.directory_ne_empty {given : Given} {arguments : List Argument} {directory : Path}
    (before : given.directory? ≠ some []) (h : given.request arguments = .ok (.analyze options))
    (inside : options.destination.directory? = some directory) : directory.bytes ≠ [] := by
  induction arguments generalizing given with
  | nil =>
      rw [Given.request, Given.finish] at h
      split at h
      · cases h
      · cases h
      · obtain rfl := Request.analyze.inj (Except.ok.inj h)
        dsimp only at inside
        split at inside
        · rename_i bytes given'
          obtain rfl := Option.some.inj inside
          rintro rfl
          exact before given'
        · split at inside <;> cases inside
  | cons argument rest ih =>
      cases argument with
      | invalid error => cases h
      | help => cases h
      | version => cases h
      | path bytes =>
          rw [Given.request] at h
          split at h
          · cases h
          · split at h
            · cases h
            · refine ih ?_ h
              exact before
      | directory bytes =>
          rw [Given.request] at h
          split at h
          · cases h
          · split at h
            · cases h
            · rename_i some
              exact ih (fun empty => some (by rw [Option.some.inj empty]; rfl)) h
      | flag flag =>
          rw [Given.request] at h
          split at h
          · cases h
          · refine ih ?_ h
            exact before

/-- The directory of the outputs, if there is one, is not given without any bytes. -/
def Destination.IsNamed (destination : Destination) : Prop :=
  ∀ directory, destination.directory? = some directory → directory.bytes ≠ []

theorem isNamed_of_accepted {arguments : List Bytes}
    (accepted : parseArguments arguments = .ok (.analyze options)) : options.destination.IsNamed :=
  fun _ => Given.directory_ne_empty (by simp) accepted

/-! ### The directory of the outputs -/

/-- The directories that are made if they are missing. -/
def Destination.directories (destination : Destination) : List Path :=
  match destination.directory? with
  | some directory => directory :: directory.ancestors
  | none => []

/-- The preparation changes nothing but that it makes these directories. -/
theorem changesBy_of_prepare {destination : Destination} {result : Except SystemError Unit}
    (prepared : prepare (m := StateM FileSystem) destination fs = (result, fs₁)) :
    fs.ChangesBy (IsMade fun l => ∃ p ∈ destination.directories, fs₁.locate p = .ok l) fs₁ := by
  obtain rfl : (prepare (m := StateM FileSystem) destination fs).2 = fs₁ :=
    congrArg Prod.snd prepared
  unfold prepare Destination.directories
  cases destination.directory? with
  | none => exact .refl _ _
  | some directory => exact (makes_makeDirectories directory fs).changes

/-- After the preparation the directory of the outputs is there. -/
theorem exists_directoryAt_of_prepare {destination : Destination} {directory : Path}
    (given : destination.directory? = some directory) (named : directory.bytes ≠ [])
    (prepared : prepare (m := StateM FileSystem) destination fs = (.ok (), fs₁)) :
    ∃ D, fs₁.locate directory = .ok D ∧ fs₁.directoryAt directory = .ok D := by
  have makes := makes_makeDirectories directory fs
  rw [prepare, given] at prepared
  dsimp only at prepared
  rw [prepared] at makes
  exact directoryAt_of_find? ((makes.made rfl).resolve_left named)

/-! ### Inputs that are ready -/

/-- The inputs are source files, and the directories of their outputs are there. -/
def IsReady (fs : FileSystem) (destination : Destination) (inputs : List Path) : Prop :=
  ∀ input ∈ inputs, ∃ stem d D, fs.HasSource input stem d ∧
    fs.directoryAt (outputHome input destination.directory?) = .ok D

/-- After the preparation every input is ready. -/
theorem isReady_of_prepare {destination : Destination}
    (sources : ∀ input ∈ inputs, fs.isInput input = true)
    (named : destination.IsNamed)
    (prepared : prepare (m := StateM FileSystem) destination fs = (.ok (), fs₁)) :
    IsReady fs₁ destination inputs := by
  have made := changesBy_of_prepare prepared
  intro input inside
  obtain ⟨stem, d, source⟩ := exists_hasSource (sources input inside)
  have source₁ := source.of_isMade made
  cases given : destination.directory? with
  | none => exact ⟨stem, d, d, source₁, source₁.home⟩
  | some directory =>
      obtain ⟨D, -, entered⟩ := exists_directoryAt_of_prepare given (named directory given) prepared
      exact ⟨stem, d, D, source₁, entered⟩

/-! ### The inputs of a directory -/

/-- Source files in one directory, in the order of their names, whose outputs go to one directory.
-/
structure IsBatch (fs : FileSystem) (destination : Destination) (inputs : List Path)
    (d D : Location) : Prop where
  source : ∀ input ∈ inputs, ∃ stem, fs.HasSource input stem d
  ready : ∀ input ∈ inputs, fs.directoryAt (outputHome input destination.directory?) = .ok D
  ordered : inputs.Pairwise Path.Precedes
  home : ∀ input ∈ inputs, ∀ other ∈ inputs, input.home = other.home

theorem IsBatch.isReady {destination : Destination} (h : IsBatch fs destination inputs d D) :
    IsReady fs destination inputs := by
  intro input inside
  obtain ⟨stem, source⟩ := h.source input inside
  exact ⟨stem, d, D, source, h.ready input inside⟩

/-- An input of a batch is known by its name. -/
theorem IsBatch.eq_of_fileName? {destination : Destination} (h : IsBatch fs destination inputs d D)
    {input other : Path} (inside : input ∈ inputs) (inside' : other ∈ inputs)
    (same : input.fileName? = other.fileName?) : input = other := by
  have distinct : (inputs.map Path.fileName?).Nodup := by
    refine List.pairwise_map.2 (h.ordered.imp fun before same => ?_)
    rw [Path.Precedes, same] at before
    exact List.lt_irrefl _ before
  exact List.inj_on_of_nodup_map distinct inside inside' same

/-- The inputs of a directory are a batch after the preparation. -/
theorem exists_isBatch {path : Path} {destination : Destination}
    (directory : fs.find? path = some .directory) (found : fs.inputs path = .ok inputs)
    (named : destination.IsNamed)
    (prepared : prepare (m := StateM FileSystem) destination fs = (.ok (), fs₁)) :
    ∃ d D, IsBatch fs₁ destination inputs d D := by
  obtain ⟨d, sources, ordered⟩ := inputs_directory directory found
  have made := changesBy_of_prepare prepared
  have sources₁ : ∀ input ∈ inputs, ∃ stem, fs₁.HasSource input stem d := fun input inside =>
    (sources input inside).imp fun stem source => source.of_isMade made
  have home : ∀ input ∈ inputs, ∀ other ∈ inputs, input.home = other.home :=
    fun input inside other => home_eq_of_mem_inputs directory found inside
  cases given : destination.directory? with
  | none =>
      refine ⟨d, d, sources₁, fun input inside => ?_, ordered, home⟩
      obtain ⟨stem, source⟩ := sources₁ input inside
      rw [given]
      exact source.home
  | some directory =>
      obtain ⟨D, -, entered⟩ := exists_directoryAt_of_prepare given (named directory given) prepared
      refine ⟨d, D, sources₁, fun input inside => ?_, ordered, home⟩
      rw [given]
      exact entered

/-! ### A run -/

/-- The directory of the outputs is made alike in every monad. -/
theorem prepare_eq_embed {m n : Type → Type} [Monad m] [Monad n] [MonadFiles m] [MonadFiles n]
    {embed : (α : Type) → m α → n α} (h : Embeds embed) (destination : Destination) :
    prepare destination = embed _ (prepare destination) := by
  unfold prepare
  split
  · exact h.makeDirectories _
  · exact (h.pure _).symm

/-- A run finds its inputs, makes the directory of the outputs, and analyzes the inputs. -/
theorem run_apply (options : Options) (s : Machine) :
    run (m := StateM Machine) options s =
      match s.files.inputs options.path with
      | .error error => (⟨1, ["error: " ++ error.message]⟩, s)
      | .ok inputs =>
          match prepare (m := StateM FileSystem) options.destination s.files with
          | (.error error, fs₁) => (⟨1, [fatalMessage error]⟩, { s with files := fs₁ })
          | (.ok (), fs₁) =>
              (.ofOutcomes options.verbose
                  (analyzeInputs (m := StateM Machine) options inputs { s with files := fs₁ }).1,
                (analyzeInputs (m := StateM Machine) options inputs { s with files := fs₁ }).2) := by
  have embeds := Machine.embedsWrites_onFiles.toEmbeds
  rw [run, bind_apply, embeds.inputsAt, Machine.onFiles_apply, inputsAt_apply]
  cases s.files.inputs options.path with
  | error error => rfl
  | ok inputs =>
      dsimp only
      rw [bind_apply, prepare_eq_embed embeds, Machine.onFiles_apply]
      generalize prepare (m := StateM FileSystem) options.destination s.files = prepared
      obtain ⟨result, fs₁⟩ := prepared
      cases result with
      | error error => rfl
      | ok done => rfl

/-- A command line that is accepted is run. -/
theorem execute_eq_run {m : Type → Type} [Monad m] [MonadFiles m] [MonadOutput m]
    {arguments : List Bytes} (accepted : parseArguments arguments = .ok (.analyze options)) :
    execute (m := m) arguments = run options := by
  rw [execute, accepted]

/-- A run finds these inputs, and makes the directory of its outputs. -/
def Begins (options : Options) (fs : FileSystem) (inputs : List Path) (fs₁ : FileSystem) : Prop :=
  inputsAt (m := StateM FileSystem) options.path fs = (.ok inputs, fs) ∧
    prepare (m := StateM FileSystem) options.destination fs = (.ok (), fs₁)

theorem begins_iff :
    Begins options fs inputs fs₁ ↔ fs.inputs options.path = .ok inputs ∧
      prepare (m := StateM FileSystem) options.destination fs = (.ok (), fs₁) := by
  rw [Begins, inputsAt_apply]
  exact and_congr_left fun _ => ⟨congrArg Prod.fst, congrArg (·, fs)⟩

theorem not_begins_of_unresolved {error : AnalysisError}
    (found : fs.inputs options.path = .error error) : ¬ Begins options fs inputs fs₁ := by
  rw [begins_iff, found]
  exact fun h => nomatch h.1

theorem not_begins_of_unprepared {failure : SystemError} {fs₂ : FileSystem}
    (prepared : prepare (m := StateM FileSystem) options.destination fs = (.error failure, fs₂)) :
    ¬ Begins options fs inputs fs₁ := by
  rw [begins_iff, prepared]
  exact fun h => nomatch h.2

/-- A run finds no inputs, or has no directory for its outputs, or begins. -/
theorem run_cases (options : Options) (s : Machine) :
    (∃ error, s.files.inputs options.path = .error error ∧
      run (m := StateM Machine) options s = (⟨1, ["error: " ++ error.message]⟩, s)) ∨
    (∃ inputs error fs₁, s.files.inputs options.path = .ok inputs ∧
      prepare (m := StateM FileSystem) options.destination s.files = (.error error, fs₁) ∧
      run (m := StateM Machine) options s = (⟨1, [fatalMessage error]⟩, { s with files := fs₁ })) ∨
    ∃ inputs fs₁, Begins options s.files inputs fs₁ := by
  rw [run_apply]
  cases found : s.files.inputs options.path with
  | error error => exact .inl ⟨error, rfl, rfl⟩
  | ok inputs =>
      dsimp only
      cases prepared : prepare (m := StateM FileSystem) options.destination s.files with
      | mk result fs₁ =>
          cases result with
          | error error => exact .inr (.inl ⟨inputs, error, fs₁, rfl, rfl, rfl⟩)
          | ok _ => exact .inr (.inr ⟨inputs, fs₁, begins_iff.2 ⟨found, prepared⟩⟩)

/-- A run begins in one way. -/
theorem Begins.unique {inputs' : List Path} {fs₁' : FileSystem}
    (h : Begins options fs inputs fs₁) (h' : Begins options fs inputs' fs₁') :
    inputs' = inputs ∧ fs₁' = fs₁ :=
  ⟨Except.ok.inj ((begins_iff.1 h').1.symm.trans (begins_iff.1 h).1),
    congrArg Prod.snd (h'.2.symm.trans h.2)⟩

/-- A run with inputs begins without a change if the directory of its outputs is there. -/
theorem begins_of_directory
    (found : inputsAt (m := StateM FileSystem) options.path fs = (.ok inputs, fs))
    (there : ∀ directory, options.destination.directory? = some directory →
      fs.find? directory = some .directory) : Begins options fs inputs fs := by
  refine ⟨found, ?_⟩
  unfold prepare
  cases given : options.destination.directory? with
  | none => rfl
  | some directory => exact makeDirectories_of_directory (there directory given)

/-- Once a run has begun, the directory of its outputs is there. -/
theorem Begins.find?_directory {directory : Path} (h : Begins options fs inputs fs₁)
    (named : options.destination.IsNamed)
    (given : options.destination.directory? = some directory) :
    fs₁.find? directory = some .directory := by
  obtain ⟨D, located, entered⟩ := exists_directoryAt_of_prepare given (named directory given) h.2
  exact find?_eq_some_iff.2 ⟨D, located, (enter_eq_ok_iff.1 entered).2⟩

/-- Once a run has begun, every input is ready. -/
theorem Begins.isReady (h : Begins options fs inputs fs₁)
    (named : options.destination.IsNamed) :
    IsReady fs₁ options.destination inputs :=
  isReady_of_prepare (fun _ => isInput_of_mem_inputs (begins_iff.1 h).1) named h.2

/-- Once a run has begun, it analyzes its inputs. -/
theorem Begins.run_apply (h : Begins options s.files inputs fs₁) :
    run (m := StateM Machine) options s =
      (.ofOutcomes options.verbose
          (analyzeInputs (m := StateM Machine) options inputs { s with files := fs₁ }).1,
        (analyzeInputs (m := StateM Machine) options inputs { s with files := fs₁ }).2) := by
  rw [CommandLine.run_apply, (begins_iff.1 h).1]
  dsimp only
  rw [h.2]

/-- A machine with a source that can be compiled and one that cannot. -/
def twoSources : Machine where
  files := ((FileSystem.empty []).put [⟨bytesOf "a.jack", by decide⟩]
    (.file "class a { }".toUTF8)).put [⟨bytesOf "b.jack", by decide⟩] (.file "class b \x7b".toUTF8)
  output := .fresh

end CommandLine

end JackSyntax
