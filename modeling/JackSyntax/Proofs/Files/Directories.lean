/-
**Making directories.**

To make a directory whose ancestors are missing, the ancestors are made first.  Whatever comes of
it, nothing is changed but that directories stand where nothing was, each at the path of one of the
directories to be made; and if it succeeds the directory is there.

Main definitions:

* `FileSystem.Makes` — what making a directory comes to.

Main results:

* `FileSystem.makeDirectory_eq_ok` — a directory that is made is at its path, where nothing was;
* `FileSystem.makes_makeDirectories` — **making a directory and those around it**;
* `FileSystem.makeDirectories_of_directory` — nothing is made where the directory is there.
-/

import JackSyntax.Proofs.Files.Changes

set_option relaxedAutoImplicit false
set_option autoImplicit false

namespace JackSyntax.FileSystem

variable {fs fs' : FileSystem} {p : Path} {l : Location}

/-! ### Files where directories are made -/

/-- Where directories are made, those that were there stay. -/
theorem keepsDirectories_of_isMade {places : Location → Prop}
    (h : fs.ChangesBy (IsMade places) fs') : fs.KeepsDirectories fs' :=
  h.keepsDirectories fun l e => not_isMade_some l .directory e

/-- Where directories are made, files are what they were. -/
theorem get?_eq_file_iff_of_isMade {places : Location → Prop}
    (h : fs.ChangesBy (IsMade places) fs') (l : Location) (contents : ByteArray) :
    fs'.get? l = some (.file contents) ↔ fs.get? l = some (.file contents) := by
  constructor
  · intro found
    by_contra other
    obtain ⟨e, found', -, -, rfl⟩ := h.change l fun same => other (same ▸ found)
    rw [found] at found'
    cases found'
  · intro found
    rw [h.get?_eq (found ▸ not_isMade_some l _), found]

/-- A file is read as before where directories are made. -/
theorem read_of_isMade {places : Location → Prop} (h : fs.ChangesBy (IsMade places) fs')
    {contents : ByteArray} (found : fs.find? p = some (.file contents)) :
    fs'.read p = fs.read p := by
  obtain ⟨l, located, there⟩ := find?_eq_some_iff.1 found
  refine read_congr located (locate_mono (keepsDirectories_of_isMade h) located) ?_ h.refusals
  rw [there, (get?_eq_file_iff_of_isMade h l contents).2 there]

/-- A new directory does not stand in place of another. -/
theorem keepsDirectories_put_directory (free : fs.get? l = none) :
    fs.KeepsDirectories (fs.put l .directory) := by
  have made : fs.ChangesBy (IsMade (· = l)) (fs.put l .directory) :=
    changesBy_put .directory ⟨rfl, free, rfl⟩
  exact keepsDirectories_of_isMade made

/-! ### One directory -/

/-- Idle steps stay in the directory. -/
theorem walk_of_isIdle {steps : List Bytes} (idle : ∀ step ∈ steps, Path.isIdle step = true)
    (h : fs.get? l = some .directory) : fs.walk l steps = .ok l := by
  induction steps with
  | nil => rfl
  | cons text steps ih =>
      rw [walk, List.foldlM_cons, step_of_isIdle (idle text List.mem_cons_self) h]
      exact ih fun step inside => idle step (List.mem_cons_of_mem _ inside)

/-- A computation succeeds if its parts do. -/
theorem bind_eq_ok_iff {ε α β : Type} {x : Except ε α} {f : α → Except ε β} {b : β} :
    x >>= f = .ok b ↔ ∃ a, x = .ok a ∧ f a = .ok b := by
  cases x <;> simp [bind, Except.bind]

/-- A path of which the steps are given, up to empty ones at the end. -/
theorem steps_of_dropWhile {last : Bytes} {before : List Bytes}
    (h : p.steps.reverse.dropWhile (· == []) = last :: before) :
    ∃ blank : List Bytes, (∀ step ∈ blank, Path.isIdle step = true) ∧
      p.steps = (before.reverse ++ [last]) ++ blank := by
  refine ⟨(p.steps.reverse.takeWhile (· == [])).reverse, fun step inside => ?_, ?_⟩
  · have empty := List.mem_takeWhile_imp (List.mem_reverse.1 inside)
    rw [beq_iff_eq.1 empty]
    rfl
  · have whole := List.takeWhile_append_dropWhile (p := (· == [])) (l := p.steps.reverse)
    rw [h] at whole
    have forwards := congrArg List.reverse whole
    rw [List.reverse_reverse] at forwards
    exact forwards.symm.trans (by simp)

/-- What the system lets be put at a place is put there. -/
theorem eq_put_of_putIfAllowed {e : Entry} (h : fs.putIfAllowed l e = .ok fs') :
    fs' = fs.put l e := by
  unfold putIfAllowed at h
  split at h
  · cases h
  · exact (Except.ok.inj h).symm

/-- A directory that is made is at its path, where nothing was. -/
theorem makeDirectory_eq_ok (h : fs.makeDirectory p = .ok fs') :
    ∃ l, fs.get? l = none ∧ fs' = fs.put l .directory ∧ fs'.locate p = .ok l := by
  obtain ⟨o, origin, h⟩ := bind_eq_ok_iff.1 h
  obtain rfl := origin_eq_start origin
  split at h
  · cases h
  rename_i last before end_
  obtain ⟨here, entered, h⟩ := bind_eq_ok_iff.1 h
  obtain ⟨s, read, h⟩ := bind_eq_ok_iff.1 h
  split at h
  case h_2 => cases h
  rename_i name
  split at h
  · cases h
  rename_i empty
  rw [Option.not_isSome_iff_eq_none] at empty
  obtain rfl := eq_put_of_putIfAllowed h
  refine ⟨name :: here, empty, rfl, ?_⟩
  -- the walk ends in the new directory, and the empty steps stay there
  have keeps := keepsDirectories_put_directory empty
  have arrived : (fs.put (name :: here) .directory).walk (fs.start p) (before.reverse ++ [last]) =
      .ok (name :: here) :=
    walk_concat_eq_ok_iff.2 ⟨here, .down name, enter_mono keeps entered, read, rfl⟩
  have same : (fs.put (name :: here) .directory).start p = fs.start p := rfl
  obtain ⟨blank, idle, steps⟩ := steps_of_dropWhile end_
  refine locate_eq_ok_iff.2 ⟨origin, ?_⟩
  rw [same, steps, walk_append, arrived]
  exact walk_of_isIdle idle (by rw [get?_put, if_neg (List.cons_ne_nil _ _), if_pos rfl])

/-! ### A directory and its ancestors -/

/-- Making a directory has changed nothing but that directories stand where nothing was, each at one
of some paths; and if it has succeeded the directory is there. -/
structure Makes (p : Path) (paths : List Path) (fs : FileSystem)
    (result : Except SystemError Unit × FileSystem) : Prop where
  changes : fs.ChangesBy (IsMade fun l => ∃ q ∈ paths, result.2.locate q = .ok l) result.2
  made : result.1 = .ok () → p.bytes = [] ∨ result.2.find? p = some .directory

/-- Directories made after others are made with them. -/
theorem changesBy_isMade_trans {fs'' : FileSystem} {paths paths' all : List Path}
    (first : fs.ChangesBy (IsMade fun l => ∃ q ∈ paths, fs'.locate q = .ok l) fs')
    (second : fs'.ChangesBy (IsMade fun l => ∃ q ∈ paths', fs''.locate q = .ok l) fs'')
    (sub : paths ⊆ all) (sub' : paths' ⊆ all) :
    fs.ChangesBy (IsMade fun l => ∃ q ∈ all, fs''.locate q = .ok l) fs'' := by
  have keeps := keepsDirectories_of_isMade second
  refine ChangesBy.trans isMade_trans (first.imp ?_) (second.imp ?_)
  · rintro l before after ⟨⟨q, inside, located⟩, others⟩
    exact ⟨⟨q, sub inside, locate_mono keeps located⟩, others⟩
  · rintro l before after ⟨⟨q, inside, located⟩, others⟩
    exact ⟨⟨q, sub' inside, located⟩, others⟩

/-- A directory that cannot be made may be there. -/
theorem ensureDirectory_apply (named : p.bytes ≠ []) (fs : FileSystem) :
    ensureDirectory (m := StateM FileSystem) p fs =
      match fs.makeDirectory p with
      | .ok fs' => (.ok (), fs')
      | .error error =>
          if fs.find? p = some .directory then (.ok (), fs) else (.error error, fs) := by
  rw [ensureDirectory, if_neg (mt List.isEmpty_iff.1 named), bind_apply, makeDirectory_apply]
  cases fs.makeDirectory p with
  | ok fs' => rfl
  | error error =>
      dsimp only [bind_apply, isDirectory_apply]
      by_cases there : fs.find? p = some .directory
      · rw [if_pos (beq_iff_eq.2 there), if_pos there]
        rfl
      · rw [if_neg (mt beq_iff_eq.1 there), if_neg there]
        rfl

/-- A directory is made inside one that exists. -/
theorem makes_ensureDirectory (p : Path) (fs : FileSystem) :
    Makes p [p] fs (ensureDirectory (m := StateM FileSystem) p fs) := by
  by_cases empty : p.bytes = []
  · have done : ensureDirectory (m := StateM FileSystem) p fs = (.ok (), fs) := by
      rw [ensureDirectory, if_pos (List.isEmpty_iff.2 empty)]
      rfl
    rw [done]
    exact ⟨.refl _ _, fun _ => Or.inl empty⟩
  rw [ensureDirectory_apply empty]
  cases made : fs.makeDirectory p with
  | ok fs' =>
      obtain ⟨l, free, rfl, located⟩ := makeDirectory_eq_ok made
      refine ⟨changesBy_put .directory ⟨⟨p, by simp, located⟩, free, rfl⟩, fun _ => Or.inr ?_⟩
      exact find?_eq_some_iff.2 ⟨l, located, by simp [get?_put]⟩
  | error error =>
      by_cases there : fs.find? p = some .directory
      · simp only [if_pos there]
        exact ⟨.refl _ _, fun _ => Or.inr there⟩
      · simp only [if_neg there]
        exact ⟨.refl _ _, nofun⟩

/-- A directory is made after those around it. -/
theorem makes_ensureDirectoryAfter (p : Path) (ancestors : List Path) (fs : FileSystem) :
    Makes p (p :: ancestors) fs (ensureDirectoryAfter (m := StateM FileSystem) p ancestors fs) := by
  induction ancestors generalizing p fs with
  | nil => exact makes_ensureDirectory p fs
  | cons parent further ih =>
      have first := makes_ensureDirectory p fs
      rw [ensureDirectoryAfter, bind_apply]
      generalize ensureDirectory (m := StateM FileSystem) p fs = tried at first ⊢
      obtain ⟨result, fs₁⟩ := tried
      by_cases missing : result = .error .notFound
      · subst missing
        dsimp only [bind_apply]
        have around := ih parent fs₁
        generalize ensureDirectoryAfter (m := StateM FileSystem) parent further fs₁ = made
          at around ⊢
        obtain ⟨result, fs₂⟩ := made
        have soFar : fs.ChangesBy
            (IsMade fun l => ∃ q ∈ p :: parent :: further, fs₂.locate q = .ok l) fs₂ :=
          changesBy_isMade_trans first.changes around.changes (by simp) (by simp)
        cases result with
        | error error => exact ⟨soFar, nofun⟩
        | ok _ =>
            have last := makes_ensureDirectory p fs₂
            exact ⟨changesBy_isMade_trans soFar last.changes (List.Subset.refl _) (by simp),
              last.made⟩
      · dsimp only
        split
        · exact absurd rfl missing
        · exact ⟨first.changes.imp fun l before after ⟨⟨q, inside, located⟩, others⟩ =>
            ⟨⟨q, by simp [List.mem_singleton.1 inside], located⟩, others⟩, first.made⟩

/-- **Making a directory makes nothing but directories that are missing around it.** -/
theorem makes_makeDirectories (p : Path) (fs : FileSystem) :
    Makes p (p :: p.ancestors) fs (makeDirectories (m := StateM FileSystem) p fs) :=
  makes_ensureDirectoryAfter p p.ancestors fs

/-! ### Directories that are there -/

/-- A directory that is there cannot be made once more. -/
theorem makeDirectory_ne_ok (there : fs.find? p = some .directory) :
    fs.makeDirectory p ≠ .ok fs' := by
  intro made
  obtain ⟨l, free, rfl, located⟩ := makeDirectory_eq_ok made
  obtain ⟨d, arrived, found⟩ := find?_eq_some_iff.1 there
  obtain rfl := Except.ok.inj
    (located.symm.trans (locate_mono (keepsDirectories_put_directory free) arrived))
  rw [free] at found
  cases found

/-- Nothing is changed where a directory is there that is to be made. -/
theorem makeDirectories_of_directory (there : fs.find? p = some .directory) :
    makeDirectories (m := StateM FileSystem) p fs = (.ok (), fs) := by
  have named : p.bytes ≠ [] := by
    intro empty
    obtain ⟨d, located, -⟩ := find?_eq_some_iff.1 there
    obtain ⟨origin, -⟩ := locate_eq_ok_iff.1 located
    simp [FileSystem.origin, empty] at origin
  have first : ensureDirectory (m := StateM FileSystem) p fs = (.ok (), fs) := by
    rw [ensureDirectory_apply named]
    cases made : fs.makeDirectory p with
    | ok fs' => exact absurd made (makeDirectory_ne_ok there)
    | error error => simp only [if_pos there]
  rw [makeDirectories]
  cases p.ancestors with
  | nil => exact first
  | cons parent further =>
      rw [ensureDirectoryAfter, bind_apply, first]
      rfl

end JackSyntax.FileSystem
