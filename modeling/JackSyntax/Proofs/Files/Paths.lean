/-
**The steps of a path that lead somewhere.**

A path is a sequence of bytes, and its parts are cut out of it: the file name, the parent, the stem.
To a file system only the steps matter, and of these only the ones that are not idle.  They are
called the course of a path here.  A name that is joined to a path goes to the end of its course,
and the parent of a path has all of its course but the end.

Main definitions:

* `IsPlain` — bytes that are one step and lead to a name;
* `Path.course` — the steps of a path that are not idle;
* `Path.home` — the directory of a path that has a file name.

Main results:

* `Path.fileName?_eq_some_iff` — the file name is the end of the course;
* `Path.course_join`, `Path.course_home` — **the course of a joined path and of a parent**;
* `Path.withFileName_eq` — another name beside a file is a name inside its home;
* `Path.exists_home_join` — all names inside a directory have the same home;
* `splitExtension_eq_some_iff` — a name with an extension is a stem, a dot and the extension;
* `Path.exists_stem` — the stem of a text is a text.
-/

import Mathlib.Data.List.TakeWhile
import JackSyntax.FileSystem.Path
import JackSyntax.Proofs.Text.Bytes

set_option relaxedAutoImplicit false
set_option autoImplicit false

namespace JackSyntax

/-- Bytes that are one step and lead to a name: they hold no slash, and are neither idle nor the
step to the enclosing directory. -/
structure IsPlain (step : Bytes) : Prop where
  slash : slash ∉ step
  busy : Path.isIdle step = false
  name : step ≠ [dot, dot]

/-! ### Cutting bytes at slashes -/

theorem intercalate_append {first second : List Bytes} (some : first ≠ [])
    (some' : second ≠ []) :
    [slash].intercalate (first ++ second) =
      [slash].intercalate first ++ slash :: [slash].intercalate second := by
  induction first with
  | nil => exact absurd rfl some
  | cons step first ih =>
      cases first with
      | nil =>
          rw [List.singleton_append, List.intercalate_cons_of_ne_nil some',
            List.intercalate_singleton, List.append_assoc, List.singleton_append]
      | cons next first =>
          rw [List.cons_append, List.intercalate_cons_of_ne_nil (by simp),
            ih (List.cons_ne_nil _ _), List.intercalate_cons_of_ne_nil (List.cons_ne_nil _ _)]
          simp [List.append_assoc]

/-- No piece of bytes that are cut at their slashes holds one. -/
theorem slash_not_mem_of_mem_splitOn {bytes step : Bytes} (h : step ∈ bytes.splitOn slash) :
    slash ∉ step := by
  induction bytes generalizing step with
  | nil =>
      obtain rfl := List.mem_singleton.1 h
      exact List.not_mem_nil
  | cons byte bytes ih =>
      rw [List.splitOn_cons_eq_if_modifyHead] at h
      by_cases separator : byte = slash
      · rw [if_pos (by simpa using separator)] at h
        rcases List.mem_cons.1 h with rfl | h
        · exact List.not_mem_nil
        · exact ih h
      · rw [if_neg (by simpa using separator)] at h
        obtain ⟨first, rest, pieces⟩ := List.exists_cons_of_ne_nil (List.splitOn_ne_nil slash bytes)
        rw [pieces, List.modifyHead_cons] at h
        rcases List.mem_cons.1 h with rfl | h
        · have clean := ih (pieces ▸ List.mem_cons_self)
          simpa [Ne.symm separator] using clean
        · exact ih (pieces ▸ List.mem_cons_of_mem _ h)

/-- Steps that lead nowhere are left out wherever they stand, so they may be left out at the end
first. -/
theorem filter_dropWhile_isIdle (steps : List Bytes) :
    (steps.dropWhile Path.isIdle).filter (fun step => !Path.isIdle step) =
      steps.filter fun step => !Path.isIdle step := by
  induction steps with
  | nil => rfl
  | cons step steps ih =>
      by_cases idle : Path.isIdle step = true
      · rw [List.dropWhile_cons_of_pos idle, ih, List.filter_cons_of_neg (by simp [idle])]
      · rw [List.dropWhile_cons_of_neg idle]

namespace Path

/-- The steps of bytes that lead somewhere. -/
def leading (bytes : Bytes) : List Bytes :=
  (bytes.splitOn slash).filter fun step => !isIdle step

/-- The steps of a path that lead somewhere. -/
def course (p : Path) : List Bytes := p.steps.filter fun step => !isIdle step

theorem course_eq (p : Path) : p.course = leading p.bytes := rfl

@[simp] theorem leading_nil : leading [] = [] := rfl

theorem leading_slash (before after : Bytes) :
    leading (before ++ slash :: after) = leading before ++ leading after := by
  rw [leading, List.splitOn_append_cons_self, List.filter_append]
  rfl

/-- Every path has a last step, though it may be idle. -/
theorem exists_steps_eq_concat (p : Path) : ∃ before last, p.steps = before ++ [last] := by
  rcases List.eq_nil_or_concat p.steps with empty | ⟨before, last, same⟩
  · exact absurd empty (List.splitOn_ne_nil _ _)
  · exact ⟨before, last, by rw [same, List.concat_eq_append]⟩

/-! ### The anchor and the trail -/

theorem beginsAtRoot_iff {bytes : Bytes} :
    beginsAtRoot bytes = true ↔ ∃ rest, bytes = slash :: rest := by
  rw [beginsAtRoot, beq_iff_eq, List.head?_eq_some_iff]

/-- What an anchor is, and where. -/
theorem anchor_eq_cases (bytes : Bytes) :
    (∃ rest, bytes = slash :: rest ∧ anchor bytes = [slash]) ∨
      (bytes = [dot] ∧ anchor bytes = [dot]) ∨
      (∃ rest, bytes = dot :: slash :: rest ∧ anchor bytes = [dot]) ∨
      beginsAtRoot bytes = false ∧ anchor bytes = [] := by
  unfold anchor
  split
  · rename_i root
    obtain ⟨rest, same⟩ := beginsAtRoot_iff.1 root
    exact Or.inl ⟨rest, same, rfl⟩
  · rename_i noRoot
    split
    · rename_i front
      rcases front with alone | ⟨rest, same⟩
      · exact Or.inr (Or.inl ⟨alone, rfl⟩)
      · exact Or.inr (Or.inr (Or.inl ⟨rest, same.symm, rfl⟩))
    · exact Or.inr (Or.inr (Or.inr ⟨Bool.eq_false_iff.2 noRoot, rfl⟩))

/-- An anchor leads nowhere. -/
theorem leading_anchor (bytes : Bytes) : leading (anchor bytes) = [] := by
  rcases anchor_eq_cases bytes with ⟨-, -, same⟩ | ⟨-, same⟩ | ⟨-, -, same⟩ | ⟨-, same⟩ <;>
    rw [same] <;> rfl

/-- What stands behind the anchor leads where the whole path leads. -/
theorem leading_drop_anchor (bytes : Bytes) :
    leading (bytes.drop (anchor bytes).length) = leading bytes := by
  rcases anchor_eq_cases bytes with ⟨rest, rfl, same⟩ | ⟨rfl, same⟩ | ⟨rest, rfl, same⟩ | ⟨-, same⟩
  · rw [same]
    exact (leading_slash [] rest).symm
  · rw [same]
    rfl
  · rw [same]
    exact (leading_slash [] rest).trans (leading_slash [dot] rest).symm
  · rw [same]
    rfl

/-- An anchor begins at the root if its path does. -/
theorem beginsAtRoot_anchor (bytes : Bytes) :
    beginsAtRoot (anchor bytes) = beginsAtRoot bytes := by
  rcases anchor_eq_cases bytes with ⟨rest, rfl, same⟩ | ⟨rfl, same⟩ | ⟨rest, rfl, same⟩ |
    ⟨noRoot, same⟩
  · rw [same]
    rfl
  · rw [same]
  · rw [same]
    rfl
  · rw [same, noRoot]
    rfl

theorem anchor_append_drop (bytes : Bytes) :
    anchor bytes ++ bytes.drop (anchor bytes).length = bytes := by
  rcases anchor_eq_cases bytes with
    ⟨rest, rfl, same⟩ | ⟨rfl, same⟩ | ⟨rest, rfl, same⟩ | ⟨-, same⟩ <;>
    rw [same] <;> rfl

theorem anchor_anchor (bytes : Bytes) : anchor (anchor bytes) = anchor bytes := by
  rcases anchor_eq_cases bytes with ⟨-, -, same⟩ | ⟨-, same⟩ | ⟨-, -, same⟩ | ⟨-, same⟩ <;>
    rw [same] <;> rfl

/-- What stands behind a slash makes no difference to the anchor, nor does a slash behind a step. -/
theorem anchor_append_slash {first : Bytes} (some : first ≠ []) (rest : Bytes) :
    anchor (first ++ slash :: rest) = anchor first := by
  obtain ⟨byte, first, rfl⟩ := List.exists_cons_of_ne_nil some
  cases first with
  | nil => simp [anchor, beginsAtRoot, @eq_comm _ dot byte]
  | cons next first => simp [anchor, beginsAtRoot]

/-- Bytes without a slash have no anchor, unless they are a dot. -/
theorem anchor_of_slash_not_mem {bytes : Bytes} (clean : slash ∉ bytes) (noDot : bytes ≠ [dot]) :
    anchor bytes = [] := by
  rcases anchor_eq_cases bytes with ⟨rest, rfl, -⟩ | ⟨rfl, -⟩ | ⟨rest, rfl, -⟩ | ⟨-, same⟩
  · exact absurd List.mem_cons_self clean
  · exact absurd rfl noDot
  · exact absurd (List.mem_cons_of_mem _ List.mem_cons_self) clean
  · exact same

theorem isAbsolute_eq (p : Path) : p.isAbsolute = beginsAtRoot (anchor p.bytes) :=
  (beginsAtRoot_anchor _).symm

/-- The trail is the course backwards, with some of the idle steps still in it. -/
theorem reverse_filter_trail (p : Path) :
    (p.trail.filter fun step => !isIdle step).reverse = leading p.bytes := by
  rw [trail, filter_dropWhile_isIdle, List.filter_reverse, List.reverse_reverse,
    ← leading_drop_anchor]
  rfl

/-- A trail ends with a step that leads somewhere, if it is not empty. -/
theorem isIdle_of_trail {p : Path} {last : Bytes} {before : List Bytes}
    (h : p.trail = last :: before) : isIdle last = false := by
  have refused := List.head?_dropWhile_not isIdle
    ((p.bytes.drop (anchor p.bytes).length).splitOn slash).reverse
  rw [show List.dropWhile isIdle _ = last :: before from h] at refused
  exact refused

theorem course_of_trail {p : Path} {last : Bytes} {before : List Bytes}
    (h : p.trail = last :: before) :
    p.course = (before.filter fun step => !isIdle step).reverse ++ [last] := by
  rw [course_eq, ← reverse_filter_trail, h, List.filter_cons_of_pos (by simp [isIdle_of_trail h])]
  simp

/-- The file name is the end of the course, unless this is the step to the enclosing directory. -/
theorem fileName?_eq_some_iff {p : Path} {name : Bytes} :
    p.fileName? = some name ↔ name ≠ [dot, dot] ∧ p.course.getLast? = some name := by
  cases end_ : p.trail with
  | nil =>
      have nothing : p.course = [] := by
        rw [course_eq, ← reverse_filter_trail, end_]
        rfl
      simp [fileName?, end_, nothing]
  | cons last before =>
      rw [course_of_trail end_, List.getLast?_concat, fileName?, end_, Option.some.injEq]
      by_cases up : last = [dot, dot]
      · subst up
        simp only [if_true, reduceCtorEq, false_iff, not_and]
        rintro other rfl
        exact other rfl
      · simp only [if_neg up, Option.some.injEq]
        constructor
        · rintro rfl
          exact ⟨up, rfl⟩
        · exact fun both => both.2

/-! ### Joined paths -/

theorem not_beginsAtRoot_of_isPlain {name : Bytes} (plain : IsPlain name) :
    beginsAtRoot name = false := by
  rw [Bool.eq_false_iff]
  intro root
  obtain ⟨rest, rfl⟩ := beginsAtRoot_iff.1 root
  exact plain.slash List.mem_cons_self

theorem join_eq (directory : Path) {name : Bytes} (plain : IsPlain name) :
    ∃ between, (directory.join name).bytes = directory.bytes ++ between ++ name ∧
      (between = [] ∧ directory.bytes.getLast?.all (· == slash) = true ∨
        between = [slash] ∧ directory.bytes ≠ []) := by
  unfold join
  rw [if_neg (by simp [not_beginsAtRoot_of_isPlain plain])]
  split
  · rename_i closed
    exact ⟨[], by simp, Or.inl ⟨rfl, closed⟩⟩
  · rename_i open_
    refine ⟨[slash], by simp, Or.inr ⟨rfl, fun empty => open_ ?_⟩⟩
    rw [empty]
    rfl

/-- A joined path is as long as its two parts, or longer by a slash. -/
theorem length_join (directory : Path) {name : Bytes} (plain : IsPlain name) :
    directory.bytes.length + name.length ≤ (directory.join name).bytes.length ∧
      (directory.join name).bytes.length ≤ directory.bytes.length + 1 + name.length := by
  obtain ⟨between, whole, ⟨rfl, -⟩ | ⟨rfl, -⟩⟩ := join_eq directory plain <;>
    simp only [whole, List.length_append, List.length_nil, List.length_singleton] <;> omega

/-- A name that is joined to a directory is one more step, at the end. -/
theorem steps_join (directory : Path) {name : Bytes} (plain : IsPlain name) :
    ∃ before, (directory.join name).steps = before ++ [name] ∧
      (before.filter fun step => !isIdle step) = directory.course := by
  have alone : name.splitOn slash = [name] := List.splitOn_eq_singleton plain.slash
  obtain ⟨between, whole, ⟨rfl, closed⟩ | ⟨rfl, -⟩⟩ := join_eq directory plain
  · rw [List.append_nil] at whole
    rcases List.eq_nil_or_concat directory.bytes with empty | ⟨start, last, ending⟩
    · refine ⟨[], ?_, ?_⟩
      · rw [steps, whole, empty, List.nil_append, alone, List.nil_append]
      · rw [course_eq, empty]
        rfl
    · -- the directory ends with a slash already
      rw [List.concat_eq_append] at ending
      obtain rfl : last = slash := by simpa [ending] using closed
      refine ⟨start.splitOn slash, ?_, ?_⟩
      · rw [steps, whole, ending, List.append_assoc, List.singleton_append,
          List.splitOn_append_cons_self, alone]
      · rw [course_eq, ending, leading_slash, leading_nil, List.append_nil]
        rfl
  · refine ⟨directory.steps, ?_, rfl⟩
    rw [steps, whole, List.append_assoc, List.singleton_append, List.splitOn_append_cons_self,
      alone]
    rfl

theorem course_join (directory : Path) {name : Bytes} (plain : IsPlain name) :
    (directory.join name).course = directory.course ++ [name] := by
  obtain ⟨before, steps, kept⟩ := steps_join directory plain
  rw [course, steps, List.filter_append, kept]
  simp [plain.busy]

/-- A joined path has the anchor of the directory. -/
theorem anchor_join (directory : Path) {name : Bytes} (plain : IsPlain name) :
    anchor (directory.join name).bytes = anchor directory.bytes := by
  obtain ⟨between, whole, ⟨rfl, closed⟩ | ⟨rfl, some⟩⟩ := join_eq directory plain
  · rw [List.append_nil] at whole
    rw [whole]
    rcases List.eq_nil_or_concat directory.bytes with empty | ⟨start, last, ending⟩
    · have noDot : name ≠ [dot] := fun same => by simpa [same, isIdle] using plain.busy
      rw [empty]
      exact anchor_of_slash_not_mem plain.slash noDot
    · -- the directory ends with a slash already
      rw [List.concat_eq_append] at ending
      obtain rfl : last = slash := by simpa [ending] using closed
      rw [ending, List.append_assoc, List.singleton_append]
      cases start with
      | nil => rfl
      | cons byte start =>
          have some : byte :: start ≠ [] := List.cons_ne_nil _ _
          rw [anchor_append_slash some, anchor_append_slash some]
  · rw [whole, List.append_assoc, List.singleton_append, anchor_append_slash some]

theorem isAbsolute_join (directory : Path) {name : Bytes} (plain : IsPlain name) :
    (directory.join name).isAbsolute = directory.isAbsolute := by
  rw [isAbsolute_eq, isAbsolute_eq, anchor_join directory plain]

/-- The file name of a joined path is the name that was joined. -/
theorem fileName?_join (directory : Path) {name : Bytes} (plain : IsPlain name) :
    (directory.join name).fileName? = some name :=
  fileName?_eq_some_iff.2 ⟨plain.name, by rw [course_join directory plain, List.getLast?_concat]⟩

/-! ### The parent of a path -/

/-- The directory of a path that has a file name. -/
def home (p : Path) : Path := p.parent?.getD ⟨[]⟩

theorem parent?_of_trail {p : Path} {last : Bytes} {before : List Bytes}
    (h : p.trail = last :: before) : p.parent? = some (ofTrail (anchor p.bytes) before) := by
  rw [parent?, ancestors, h, ancestorsAlong, if_neg (by simp [isIdle_of_trail h])]
  rfl

/-- The steps of a path are those of its parent, and more. -/
theorem splitOn_of_trail {p : Path} {last : Bytes} {before : List Bytes}
    (h : p.trail = last :: before) :
    ∃ cut, cut ≠ [] ∧ (p.bytes.drop (anchor p.bytes).length).splitOn slash =
      (before.dropWhile isIdle).reverse ++ cut := by
  obtain ⟨late, all⟩ : last :: before <:+
      ((p.bytes.drop (anchor p.bytes).length).splitOn slash).reverse :=
    h ▸ List.dropWhile_suffix isIdle
  obtain ⟨idle, kept⟩ : before.dropWhile isIdle <:+ before := List.dropWhile_suffix isIdle
  refine ⟨(late ++ last :: idle).reverse, by simp, ?_⟩
  rw [← List.reverse_append, List.append_assoc, List.cons_append, kept, all, List.reverse_reverse]

/-- Without the last step a path is cut short, so that it still begins as before and leads along
all of the course but its end. -/
theorem leading_ofTrail {p : Path} {last : Bytes} {before : List Bytes}
    (h : p.trail = last :: before) :
    leading (ofTrail (anchor p.bytes) before).bytes =
        (before.filter fun step => !isIdle step).reverse ∧
      anchor (ofTrail (anchor p.bytes) before).bytes = anchor p.bytes := by
  have front : (ofTrail (anchor p.bytes) before).bytes =
      anchor p.bytes ++ [slash].intercalate (before.dropWhile isIdle).reverse := rfl
  obtain ⟨cut, some, all⟩ := splitOn_of_trail h
  rw [← filter_dropWhile_isIdle before]
  cases kept : before.dropWhile isIdle with
  | nil =>
      rw [front, kept, List.reverse_nil, List.intercalate_nil, List.append_nil]
      exact ⟨leading_anchor _, anchor_anchor _⟩
  | cons step steps =>
      rw [kept] at front all
      have clean : ∀ piece ∈ cut, slash ∉ piece := fun piece inside =>
        slash_not_mem_of_mem_splitOn (all ▸ List.mem_append_right _ inside)
      have whole : p.bytes = (ofTrail (anchor p.bytes) before).bytes ++
          slash :: [slash].intercalate cut := by
        rw [front, List.append_assoc, ← intercalate_append (by simp) some, ← all,
          List.intercalate_splitOn, anchor_append_drop]
      constructor
      · -- both sides lead along the course of the path when the steps cut off are added
        have course := leading_drop_anchor p.bytes
        have split := leading_slash (ofTrail (anchor p.bytes) before).bytes
          ([slash].intercalate cut)
        have cutCourse : leading ([slash].intercalate cut) =
            cut.filter fun step => !isIdle step := by
          rw [leading, List.splitOn_intercalate slash clean some]
        rw [leading, all, List.filter_append] at course
        rw [← whole, ← course, cutCourse, List.append_left_inj] at split
        rw [← split, List.filter_reverse]
      · have nonempty : (ofTrail (anchor p.bytes) before).bytes ≠ [] := by
          -- otherwise the path begins with a slash, which is in its anchor
          intro empty
          have none := (List.append_eq_nil_iff.1 (front.symm.trans empty)).1
          rw [whole, empty] at none
          cases none
        have begins := anchor_append_slash nonempty ([slash].intercalate cut)
        rw [← whole] at begins
        exact begins.symm

theorem home_of_fileName {p : Path} {name : Bytes} (h : p.fileName? = some name) :
    ∃ last before, p.trail = last :: before ∧ name = last ∧
      p.parent? = some p.home ∧ p.home = ofTrail (anchor p.bytes) before := by
  unfold fileName? at h
  cases end_ : p.trail with
  | nil =>
      rw [end_] at h
      cases h
  | cons last before =>
      have parent := parent?_of_trail end_
      have same : p.home = ofTrail (anchor p.bytes) before := by rw [home, parent]; rfl
      refine ⟨last, before, rfl, ?_, by rw [same, parent], same⟩
      rw [end_] at h
      dsimp only at h
      split at h
      · cases h
      · exact (Option.some.inj h).symm

/-- A path that has a file name leads to its home first. -/
theorem course_home {p : Path} {name : Bytes} (h : p.fileName? = some name) :
    p.course = p.home.course ++ [name] ∧ p.home.isAbsolute = p.isAbsolute := by
  obtain ⟨last, before, end_, rfl, -, same⟩ := home_of_fileName h
  obtain ⟨course, begins⟩ := leading_ofTrail end_
  rw [same, course_of_trail end_, course_eq (ofTrail _ _), course, isAbsolute_eq, isAbsolute_eq p,
    begins]
  exact ⟨rfl, rfl⟩

/-- The home of a path has its anchor. -/
theorem anchor_home {p : Path} {name : Bytes} (h : p.fileName? = some name) :
    anchor p.home.bytes = anchor p.bytes := by
  obtain ⟨last, before, end_, rfl, -, same⟩ := home_of_fileName h
  rw [same]
  exact (leading_ofTrail end_).2

/-- Another name beside a file is a name inside the home of the file. -/
theorem withFileName_eq {p : Path} {name : Bytes} (h : p.fileName? = some name)
    (other : Bytes) : p.withFileName other = p.home.join other := by
  obtain ⟨-, -, -, -, parent, -⟩ := home_of_fileName h
  rw [withFileName, h, parent]

/-- The steps in front of a name do not depend on the name, since the bytes in front of it end with
a slash if there are any. -/
theorem exists_dropWhile_reverse_splitOn {front : Bytes}
    (closed : front.getLast?.all (· == slash) = true) :
    ∃ before, ∀ name, IsPlain name →
      ((front ++ name).splitOn slash).reverse.dropWhile isIdle = name :: before := by
  rcases List.eq_nil_or_concat front with rfl | ⟨start, last, rfl⟩
  · refine ⟨[], fun name plain => ?_⟩
    rw [List.nil_append, List.splitOn_eq_singleton plain.slash]
    simp [plain.busy]
  · obtain rfl : last = slash := by simpa using closed
    refine ⟨(start.splitOn slash).reverse, fun name plain => ?_⟩
    rw [List.concat_eq_append, List.append_assoc, List.singleton_append,
      List.splitOn_append_cons_self, List.splitOn_eq_singleton plain.slash]
    simp [plain.busy]

/-- All names inside a directory have the same home. -/
theorem exists_home_join (directory : Path) :
    ∃ home, ∀ name, IsPlain name → (directory.join name).home = home := by
  -- a slash is put between the directory and the name unless there is one
  obtain ⟨front, closed, whole, long⟩ : ∃ front : Bytes, front.getLast?.all (· == slash) = true ∧
      (∀ name, IsPlain name → (directory.join name).bytes = front ++ name) ∧
      (anchor directory.bytes).length ≤ front.length := by
    have short : (anchor directory.bytes).length ≤ directory.bytes.length := by
      have sizes := congrArg List.length (anchor_append_drop directory.bytes)
      rw [List.length_append] at sizes
      omega
    by_cases closed : directory.bytes.getLast?.all (· == slash) = true
    · refine ⟨directory.bytes, closed, fun name plain => ?_, short⟩
      rw [join, if_neg (by simp [not_beginsAtRoot_of_isPlain plain]), if_pos closed]
    · refine ⟨directory.bytes ++ [slash], by simp, fun name plain => ?_, ?_⟩
      · rw [join, if_neg (by simp [not_beginsAtRoot_of_isPlain plain]), if_neg closed]
        simp
      · rw [List.length_append]
        exact short.trans (Nat.le_add_right _ _)
  have rest : (front.drop (anchor directory.bytes).length).getLast?.all (· == slash) = true := by
    rw [List.getLast?_drop]
    split
    · rfl
    · exact closed
  obtain ⟨before, trails⟩ := exists_dropWhile_reverse_splitOn rest
  refine ⟨ofTrail (anchor directory.bytes) before, fun name plain => ?_⟩
  have trail : (directory.join name).trail = name :: before := by
    rw [Path.trail, anchor_join directory plain, whole name plain,
      List.drop_append_of_le_length long, trails name plain]
  obtain ⟨last, before', same, -, -, home⟩ := home_of_fileName (fileName?_join directory plain)
  obtain ⟨-, rfl⟩ := List.cons_eq_cons.1 (trail.symm.trans same)
  rw [home, anchor_join directory plain]

/-! ### Extensions -/

/-- A name with an extension is a stem that is not empty, a dot, and the extension, which holds no
dot. -/
theorem splitExtension_eq_some_iff {name stem ending : Bytes} :
    splitExtension name = (stem, some ending) ↔
      name = stem ++ dot :: ending ∧ stem ≠ [] ∧ dot ∉ ending := by
  constructor
  · intro h
    unfold splitExtension at h
    split at h
    · rename_i last c before behind
      obtain ⟨rfl, same⟩ := Prod.mk.inj h
      obtain rfl := Option.some.inj same
      -- what is left out behind the dot ends where the dot is met
      obtain rfl : last = dot := by
        have refused := List.head?_dropWhile_not (· != dot) name.reverse
        rw [behind] at refused
        simpa using refused
      have whole : name.reverse.takeWhile (· != dot) ++ name.reverse.dropWhile (· != dot) =
          name.reverse := List.takeWhile_append_dropWhile
      rw [behind] at whole
      refine ⟨?_, by simp, fun inside => ?_⟩
      · have forwards := congrArg List.reverse whole
        rw [List.reverse_reverse] at forwards
        exact forwards.symm.trans (by simp)
      · have other := List.mem_takeWhile_imp (List.mem_reverse.1 inside)
        simp at other
    · cases h
  · rintro ⟨rfl, some, noDot⟩
    obtain ⟨c, before, backwards⟩ := List.exists_cons_of_ne_nil (mt List.reverse_eq_nil_iff.1 some)
    have clean : ∀ d ∈ ending.reverse, (d != dot) = true := by
      intro d inside
      simp only [bne_iff_ne]
      rintro rfl
      exact noDot (List.mem_reverse.1 inside)
    have whole : (stem ++ dot :: ending).reverse = ending.reverse ++ dot :: c :: before := by
      rw [← backwards]
      simp
    have forwards : (c :: before).reverse = stem := by rw [← backwards, List.reverse_reverse]
    rw [splitExtension, whole, List.dropWhile_append_of_pos clean,
      List.takeWhile_append_of_pos clean, List.dropWhile_cons_of_neg (by simp),
      List.takeWhile_cons_of_neg (by simp), List.append_nil, List.reverse_reverse]
    exact Prod.ext forwards rfl

/-! ### Stems -/

/-- The file name of a path is one of its steps. -/
theorem fileName_mem_steps {p : Path} {name : Bytes} (h : p.fileName? = some name) :
    name ∈ p.steps :=
  (List.mem_filter.1 (List.mem_of_getLast? (fileName?_eq_some_iff.1 h).2)).1

/-- A name is its stem, or its stem comes before a dot. -/
theorem stem_eq_or (name : Bytes) :
    (splitExtension name).1 = name ∨ ∃ ending, name = (splitExtension name).1 ++ dot :: ending := by
  cases ending : (splitExtension name).2 with
  | some ending' =>
      obtain ⟨whole, -, -⟩ := splitExtension_eq_some_iff.1 (Prod.ext rfl ending)
      exact Or.inr ⟨ending', whole⟩
  | none =>
      unfold splitExtension at ending ⊢
      split at ending
      · simp at ending
      · exact Or.inl rfl

/-- The stem of a name that is a text is a text, and it holds no slash if the name holds none. -/
theorem exists_stem_of_isText {name : Bytes} (whole : IsText name) (clean : slash ∉ name) :
    ∃ stem, (splitExtension name).1 = bytesOf stem ∧ '/' ∉ stem.toList := by
  have parts : IsText (splitExtension name).1 ∧ slash ∉ (splitExtension name).1 := by
    rcases stem_eq_or name with same | ⟨ending, same⟩
    · rw [same]
      exact ⟨whole, clean⟩
    · rw [same] at whole clean
      exact ⟨(isText_of_append_cons (by decide) whole).1, fun inside =>
        clean (List.mem_append_left _ inside)⟩
  obtain ⟨⟨stem, same⟩, noSlash⟩ := parts
  have shown := slash_not_mem_lossy noSlash
  rw [same, lossy_bytesOf] at shown
  exact ⟨stem, same, shown⟩

/-- A path that is a text and has a file name has a stem that is a text without a slash. -/
theorem exists_stem {p : Path} {name : Bytes} (h : p.fileName? = some name)
    (utf8 : IsText p.bytes) :
    ∃ stem, p.stem? = some (bytesOf stem) ∧ '/' ∉ stem.toList := by
  have inside := fileName_mem_steps h
  obtain ⟨stem, same, clean⟩ :=
    exists_stem_of_isText (isText_of_mem_splitOn (by decide) utf8 inside)
    (slash_not_mem_of_mem_splitOn inside)
  exact ⟨stem, by rw [stem?, h, Option.map_some, same], clean⟩

end Path

end JackSyntax
