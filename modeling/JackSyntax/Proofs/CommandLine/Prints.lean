/-
**What becomes of texts that are printed.**

Texts are printed one after the other until one fails, and a part of that one may be out.  So what
is out is always the beginning of what was to be printed, and it is the whole of it if and only if
every print succeeds.

Main definitions:

* `StandardOutput.Prints` — texts that are printed, all of them;
* `StandardOutput.printAll`, `StandardOutput.share` — printing texts until one fails, and what comes
  out;
* `StandardOutput.TakesAll` — a standard output on which no print fails.

Main results:

* `StandardOutput.printAll_eq_ok_iff`, `StandardOutput.printAll_eq_error_iff` — all texts are
  printed, or there is a first that is not;
* `StandardOutput.Prints.share_eq`, `StandardOutput.share_isPrefix` — **what comes out**: all texts
  or the beginning of them;
* `CommandLine.printTexts_apply` — the texts of an input are printed like this.
-/

import JackSyntax.CommandLine.Run
import JackSyntax.Proofs.Files.Machines
import JackSyntax.Proofs.Text.Bytes

set_option relaxedAutoImplicit false
set_option autoImplicit false

namespace JackSyntax

open FileSystem

namespace StandardOutput

variable {out next last : StandardOutput} {text : String} {texts : List String}
  {error : SystemError}

/-- Texts that are printed one after the other, all of them. -/
inductive Prints : StandardOutput → List String → StandardOutput → Prop where
  | nil {out : StandardOutput} : Prints out [] out
  | cons {out next last : StandardOutput} {text : String} {texts : List String}
      (first : out.print text = (.ok (), next)) (others : Prints next texts last) :
      Prints out (text :: texts) last

/-- Prints texts until one fails. -/
def printAll (out : StandardOutput) : List String → Except SystemError Unit × StandardOutput
  | [] => (.ok (), out)
  | text :: texts =>
      match out.print text with
      | (.ok (), next) => next.printAll texts
      | (.error error, next) => (.error error, next)

/-- What comes out when texts are printed until one fails. -/
def share (out : StandardOutput) (texts : List String) : Bytes :=
  (out.printAll texts).2.printed.drop out.printed.length

/-- No print fails. -/
def TakesAll (out : StandardOutput) : Prop := ∀ fault ∈ out.faults, fault = none

/-! ### One text -/

/-- A text that is printed is out. -/
theorem printed_of_print_eq_ok (h : out.print text = (.ok (), next)) :
    next.printed = out.printed ++ bytesOf text := by
  unfold print at h
  split at h <;> cases h <;> rfl

/-- The beginning of a text is out, whether or not its print succeeds. -/
theorem exists_printed_print (out : StandardOutput) (text : String) :
    ∃ share, (out.print text).2.printed = out.printed ++ share ∧ share <+: bytesOf text := by
  unfold print
  split
  · exact ⟨_, rfl, List.take_prefix ..⟩
  · exact ⟨_, rfl, List.prefix_refl _⟩
  · exact ⟨_, rfl, List.prefix_refl _⟩

/-- If no print fails, this one does not, and no later one either. -/
theorem TakesAll.print (h : out.TakesAll) (text : String) :
    ∃ next, out.print text = (.ok (), next) ∧ next.TakesAll := by
  obtain ⟨printed, faults⟩ := out
  match faults, h with
  | [], h => exact ⟨_, rfl, h⟩
  | none :: faults, h => exact ⟨_, rfl, fun fault inside => h fault (List.mem_cons_of_mem _ inside)⟩
  | some fault :: faults, h => exact absurd (h (some fault) List.mem_cons_self) nofun

/-! ### Several texts -/

theorem printAll_cons_of_ok (h : out.print text = (.ok (), next)) :
    out.printAll (text :: texts) = next.printAll texts := by
  rw [printAll, h]

theorem printAll_cons_of_error (h : out.print text = (.error error, next)) :
    out.printAll (text :: texts) = (.error error, next) := by
  rw [printAll, h]

/-- All texts are printed. -/
theorem printAll_eq_ok_iff : out.printAll texts = (.ok (), last) ↔ out.Prints texts last := by
  constructor
  · intro h
    induction texts generalizing out with
    | nil =>
        obtain rfl : out = last := congrArg Prod.snd h
        exact .nil
    | cons text texts ih =>
        rcases first : out.print text with ⟨error | ⟨⟩, next⟩
        · rw [printAll_cons_of_error first] at h
          cases h
        · rw [printAll_cons_of_ok first] at h
          exact .cons first (ih h)
  · intro h
    induction h with
    | nil => rfl
    | cons first _ ih => rw [printAll_cons_of_ok first, ih]

/-- There is a first text that is not printed. -/
theorem printAll_eq_error_iff :
    out.printAll texts = (.error error, last) ↔
      ∃ before text after mid, texts = before ++ text :: after ∧ out.Prints before mid ∧
        mid.print text = (.error error, last) := by
  constructor
  · intro h
    induction texts generalizing out with
    | nil => cases h
    | cons text texts ih =>
        rcases first : out.print text with ⟨error' | ⟨⟩, next⟩
        · rw [printAll_cons_of_error first] at h
          exact ⟨[], text, texts, out, rfl, .nil, first.trans h⟩
        · rw [printAll_cons_of_ok first] at h
          obtain ⟨before, text', after, mid, rfl, earlier, refused⟩ := ih h
          exact ⟨text :: before, text', after, mid, rfl, .cons first earlier, refused⟩
  · rintro ⟨before, text, after, mid, rfl, earlier, refused⟩
    induction earlier with
    | nil => exact printAll_cons_of_error refused
    | cons first _ ih =>
        rw [List.cons_append, printAll_cons_of_ok first]
        exact ih refused

/-- All texts that are printed are out. -/
theorem Prints.printed (h : out.Prints texts last) :
    last.printed = out.printed ++ texts.flatMap bytesOf := by
  induction h with
  | nil => exact (List.append_nil _).symm
  | cons first _ ih =>
      rw [ih, printed_of_print_eq_ok first, List.flatMap_cons, List.append_assoc]

/-- The beginning of the texts is out, whether or not all are printed. -/
theorem exists_printed (out : StandardOutput) (texts : List String) :
    ∃ share, (out.printAll texts).2.printed = out.printed ++ share ∧
      share <+: texts.flatMap bytesOf := by
  induction texts generalizing out with
  | nil => exact ⟨[], (List.append_nil _).symm, List.prefix_refl _⟩
  | cons text texts ih =>
      rcases first : out.print text with ⟨error | ⟨⟩, next⟩
      · obtain ⟨share, out', part⟩ := exists_printed_print out text
        rw [first] at out'
        rw [printAll_cons_of_error first, List.flatMap_cons]
        exact ⟨share, out', part.trans (List.prefix_append _ _)⟩
      · obtain ⟨share, out', part⟩ := ih next
        refine ⟨bytesOf text ++ share, ?_, ?_⟩
        · rw [printAll_cons_of_ok first, out', printed_of_print_eq_ok first, List.append_assoc]
        · rw [List.flatMap_cons]
          exact (List.prefix_append_right_inj _).2 part

theorem printed_printAll (out : StandardOutput) (texts : List String) :
    (out.printAll texts).2.printed = out.printed ++ out.share texts := by
  obtain ⟨share, same, -⟩ := exists_printed out texts
  rw [StandardOutput.share, same, List.drop_left]

/-- The beginning of the texts comes out. -/
theorem share_isPrefix (out : StandardOutput) (texts : List String) :
    out.share texts <+: texts.flatMap bytesOf := by
  obtain ⟨share, same, part⟩ := exists_printed out texts
  rwa [StandardOutput.share, same, List.drop_left]

/-- All texts come out that are printed. -/
theorem Prints.share_eq (h : out.Prints texts last) : out.share texts = texts.flatMap bytesOf := by
  rw [StandardOutput.share, printAll_eq_ok_iff.2 h, h.printed, List.drop_left]

/-- If no print fails, all texts are printed, and no later print fails either. -/
theorem TakesAll.printAll (h : out.TakesAll) (texts : List String) :
    ∃ last, out.printAll texts = (.ok (), last) ∧ last.TakesAll := by
  induction texts generalizing out with
  | nil => exact ⟨out, rfl, h⟩
  | cons text texts ih =>
      obtain ⟨next, first, h'⟩ := h.print text
      obtain ⟨last, others, h''⟩ := ih h'
      exact ⟨last, (printAll_cons_of_ok first).trans others, h''⟩

end StandardOutput

namespace CommandLine

/-- The texts of an input are printed until one fails, and no file is changed. -/
theorem printTexts_apply (input : Path) (texts : List String) (s : Machine) :
    printTexts (m := StateM Machine) input texts s =
      ((s.output.printAll texts).1.mapError (.system input),
        { s with output := (s.output.printAll texts).2 }) := by
  induction texts generalizing s with
  | nil => rfl
  | cons text texts ih =>
      have single : (MonadOutput.print text : StateM Machine (Except SystemError Unit)) s =
        ((s.output.print text).1, { s with output := (s.output.print text).2 }) := rfl
      rw [printTexts, bind_apply, single]
      rcases first : s.output.print text with ⟨error | ⟨⟩, next⟩
      · rw [StandardOutput.printAll_cons_of_error first]
        rfl
      · rw [StandardOutput.printAll_cons_of_ok first]
        exact ih { s with output := next }

end CommandLine

end JackSyntax
