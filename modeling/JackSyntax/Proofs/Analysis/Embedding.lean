/-
**Programs that run in another monad.**

A program that reaches files through the operations alone does the same in every monad into which
its own is embedded, such as one that keeps more than the files.  So it is enough to follow it in
one of them.

Main definitions:

* `Embeds` — an embedding of a monad of files in another, which may write files in another way;
* `EmbedsWrites` — one that writes them in the same way.

Main results:

* `Embeds.makeDirectories`, `Embeds.inputsAt`, `Embeds.compileFile` — programs that write no file;
* `EmbedsWrites.writeOutputs` — a program that writes files.
-/

import JackSyntax.Analysis.Batch

set_option relaxedAutoImplicit false
set_option autoImplicit false

namespace JackSyntax

section

variable {m n : Type → Type} [Monad m] [Monad n] [MonadFiles m] [MonadFiles n]

/-- An embedding keeps what programs are made of: results, sequences and the operations on files
other than to write one. -/
structure Embeds (embed : (α : Type) → m α → n α) : Prop where
  pure : ∀ {α : Type} (a : α), embed α (pure a) = Pure.pure a
  bind : ∀ {α β : Type} (x : m α) (f : α → m β),
    embed β (x >>= f) = embed α x >>= fun a => embed β (f a)
  isDirectory : ∀ p, embed _ (isDirectory p) = JackSyntax.isDirectory p
  isFile : ∀ p, embed _ (isFile p) = JackSyntax.isFile p
  list : ∀ p, embed _ (MonadFiles.list p) = MonadFiles.list p
  read : ∀ p, embed _ (MonadFiles.read p) = MonadFiles.read p
  makeDirectory : ∀ p, embed _ (MonadFiles.makeDirectory p) = MonadFiles.makeDirectory p

/-- An embedding that keeps the writing of files as well. -/
structure EmbedsWrites (embed : (α : Type) → m α → n α) : Prop extends Embeds embed where
  write : ∀ p contents, embed _ (MonadFiles.write p contents) = MonadFiles.write p contents

namespace Embeds

variable {embed : (α : Type) → m α → n α} (h : Embeds embed)

include h

/-! ### Making directories -/

theorem ensureDirectory (p : Path) :
    JackSyntax.ensureDirectory p = embed _ (JackSyntax.ensureDirectory p) := by
  unfold JackSyntax.ensureDirectory
  split
  · rw [h.pure]
  · rw [h.bind, h.makeDirectory]
    refine bind_congr fun result => ?_
    cases result with
    | ok _ => rw [h.pure]
    | error error =>
        dsimp only
        rw [h.bind, h.isDirectory]
        refine bind_congr fun there => ?_
        split <;> rw [h.pure]

theorem ensureDirectoryAfter (p : Path) (ancestors : List Path) :
    JackSyntax.ensureDirectoryAfter p ancestors =
      embed _ (JackSyntax.ensureDirectoryAfter p ancestors) := by
  induction ancestors generalizing p with
  | nil => exact h.ensureDirectory p
  | cons parent further ih =>
      rw [JackSyntax.ensureDirectoryAfter, JackSyntax.ensureDirectoryAfter, h.bind,
        h.ensureDirectory]
      refine bind_congr fun result => ?_
      split
      · rw [h.bind, ih]
        refine bind_congr fun around => ?_
        cases around with
        | ok _ => rfl
        | error error => rw [h.pure]
      · rw [h.pure]

theorem makeDirectories (p : Path) :
    JackSyntax.makeDirectories p = embed _ (JackSyntax.makeDirectories p) :=
  h.ensureDirectoryAfter p p.ancestors

/-! ### Finding inputs -/

theorem sourcesAmong (directory : Path) (names : List Bytes) :
    JackSyntax.sourcesAmong directory names =
      embed _ (JackSyntax.sourcesAmong directory names) := by
  induction names with
  | nil => exact (h.pure _).symm
  | cons name names ih =>
      rw [JackSyntax.sourcesAmong, JackSyntax.sourcesAmong, ih, h.bind, h.isFile]
      refine bind_congr fun file => ?_
      rw [h.bind]
      exact bind_congr fun others => (h.pure _).symm

theorem inputsAt (path : Path) : JackSyntax.inputsAt path = embed _ (JackSyntax.inputsAt path) := by
  unfold JackSyntax.inputsAt
  rw [h.bind, h.isDirectory]
  refine bind_congr fun directory => ?_
  split
  · rw [h.bind, h.list]
    refine bind_congr fun names => ?_
    cases names with
    | error error => rw [h.pure]
    | ok names =>
        dsimp only
        rw [h.bind, h.sourcesAmong]
        exact bind_congr fun inputs => (h.pure _).symm
  · rw [h.bind, h.isFile]
    refine bind_congr fun file => ?_
    split <;> rw [h.pure]

/-! ### Compiling -/

theorem compileFile (withTokens : Bool) (input : Path) :
    JackSyntax.compileFile withTokens input =
      embed _ (JackSyntax.compileFile withTokens input) := by
  unfold JackSyntax.compileFile
  rw [h.bind, h.read]
  refine bind_congr fun result => ?_
  cases result with
  | error error => rw [h.pure]
  | ok bytes =>
      dsimp only
      split <;> rw [h.pure]

end Embeds

/-! ### Writing -/

theorem EmbedsWrites.writeOutputs {embed : (α : Type) → m α → n α} (h : EmbedsWrites embed)
    (outputs : List (Path × String)) :
    JackSyntax.writeOutputs outputs = embed _ (JackSyntax.writeOutputs outputs) := by
  induction outputs with
  | nil => exact (h.pure _).symm
  | cons output outputs ih =>
      obtain ⟨path, text⟩ := output
      rw [JackSyntax.writeOutputs, JackSyntax.writeOutputs, h.bind, h.write]
      refine bind_congr fun result => ?_
      cases result with
      | error error => rw [h.pure]
      | ok _ =>
          dsimp only
          rw [h.bind, ih]
          exact bind_congr fun paths => (h.pure _).symm

theorem EmbedsWrites.analyzeFile {embed : (α : Type) → m α → n α} (h : EmbedsWrites embed)
    (withTokens : Bool) (directory? : Option Path) (input : Path) :
    JackSyntax.analyzeFile withTokens directory? input =
      embed _ (JackSyntax.analyzeFile withTokens directory? input) := by
  unfold JackSyntax.analyzeFile
  rw [h.bind, h.compileFile]
  refine bind_congr fun result => ?_
  cases result with
  | error error => rw [h.pure]
  | ok compiled => exact h.writeOutputs _

end

end JackSyntax
