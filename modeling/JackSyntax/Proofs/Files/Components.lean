/-
**Paths, component by component.**

A path is more than the place to which it leads, and less than its bytes.  Slashes that are repeated
or stand at the end, and dots between slashes, say nothing; what counts is whether the path begins
at the root, whether it begins with a dot, and the steps of its course.  These are the components of
a path, and two paths with the same components are taken for the same.

Main definitions:

* `Component` — a part of a path;
* `Path.components` — the parts of a path;
* `Path.IsTrimmed` — a path that does not end with a slash, unless it is the root.

Main results:

* `Path.components_join`, `Path.components_home` — **a name inside a directory is one more
  component, and the parent has all but the last**;
* `Path.join_inj` — names inside trimmed directories are told apart by their bytes as well.
-/

import JackSyntax.Proofs.Files.Paths

set_option relaxedAutoImplicit false
set_option autoImplicit false

namespace JackSyntax

/-- A part of a path. -/
inductive Component where
  | root
  /-- A dot in front of a path. -/
  | here
  /-- The step to the enclosing directory. -/
  | up
  | name (bytes : Bytes)
  deriving DecidableEq

namespace Component

/-- The part of a path that its anchor is. -/
def ofAnchor (anchor : Bytes) : List Component :=
  if anchor = [slash] then [.root] else if anchor = [dot] then [.here] else []

/-- The part of a path that a step is which leads somewhere. -/
def ofStep (step : Bytes) : Component := if step = [dot, dot] then .up else .name step

end Component

namespace Path

variable {p q : Path} {name : Bytes}

/-- The parts of a path, from the first to the last. -/
def components (p : Path) : List Component :=
  Component.ofAnchor (anchor p.bytes) ++ p.course.map Component.ofStep

/-- An anchor is empty, the root or a dot. -/
theorem anchor_cases (bytes : Bytes) :
    anchor bytes = [] ∨ anchor bytes = [slash] ∨ anchor bytes = [dot] := by
  rcases anchor_eq_cases bytes with ⟨-, -, same⟩ | ⟨-, same⟩ | ⟨-, -, same⟩ | ⟨-, same⟩ <;>
    simp [same]

/-- A name inside a directory is one more component. -/
theorem components_join (directory : Path) (plain : IsPlain name) :
    (directory.join name).components = directory.components ++ [.name name] := by
  rw [components, anchor_join directory plain, course_join directory plain, List.map_append,
    ← List.append_assoc]
  simp [components, Component.ofStep, plain.name]

/-- The parent of a path that has a file name has all of its components but the last. -/
theorem components_home (h : p.fileName? = some name) :
    p.parent? = some p.home ∧ p.components = p.home.components ++ [.name name] := by
  obtain ⟨-, -, -, -, parent, -⟩ := home_of_fileName h
  refine ⟨parent, ?_⟩
  rw [components, components, anchor_home h, (course_home h).1, List.map_append,
    ← List.append_assoc]
  simp [Component.ofStep, (fileName?_eq_some_iff.1 h).1]

/-- A path that has a file name is known from its parent and this name. -/
theorem components_eq_iff_of_fileName {other : Bytes} (h : p.fileName? = some name)
    (h' : q.fileName? = some other) :
    p.components = q.components ↔ p.home.components = q.home.components ∧ name = other := by
  rw [(components_home h).2, (components_home h').2]
  simp

/-- The parent of a name inside a directory is the directory, component by component. -/
theorem components_home_join (directory : Path) (plain : IsPlain name) :
    (directory.join name).home.components = directory.components := by
  have all := (components_home (fileName?_join directory plain)).2
  rw [components_join directory plain] at all
  exact (List.append_cancel_right all).symm

/-! ### Bytes of joined paths -/

/-- A path that does not end with a slash, unless it is the root. -/
def IsTrimmed (p : Path) : Prop := p.bytes.getLast? = some slash → p.bytes = [slash]

/-- Steps that are put together end with the last of them. -/
theorem exists_intercalate_concat (steps : List Bytes) (step : Bytes) :
    ∃ front, [slash].intercalate (steps ++ [step]) = front ++ step := by
  cases steps with
  | nil => exact ⟨[], List.intercalate_singleton⟩
  | cons first steps =>
      refine ⟨[slash].intercalate (first :: steps) ++ [slash], ?_⟩
      rw [intercalate_append (List.cons_ne_nil _ _) (List.cons_ne_nil _ _),
        List.intercalate_singleton, List.append_assoc, List.singleton_append]

/-- A parent ends with a step that leads somewhere, or it is its anchor. -/
theorem isTrimmed_home (h : p.fileName? = some name) : p.home.IsTrimmed := by
  obtain ⟨last, before, end_, rfl, -, same⟩ := home_of_fileName h
  obtain ⟨cut, -, all⟩ := splitOn_of_trail end_
  have whole : p.home.bytes =
      anchor p.bytes ++ [slash].intercalate (before.dropWhile isIdle).reverse := by
    rw [same]
    rfl
  intro closed
  rw [whole] at closed ⊢
  cases kept : before.dropWhile isIdle with
  | nil =>
      rw [kept, List.reverse_nil, List.intercalate_nil, List.append_nil] at closed
      rcases anchor_cases p.bytes with empty | root | here
      · rw [empty] at closed
        cases closed
      · rw [root]
        rfl
      · rw [here] at closed
        cases closed
  | cons step steps =>
      -- the last step that is kept is not idle, and holds no slash
      have busy := List.head?_dropWhile_not isIdle before
      rw [kept] at busy all closed
      have clean : slash ∉ step := slash_not_mem_of_mem_splitOn
        (all ▸ List.mem_append_left _ (List.mem_reverse.2 List.mem_cons_self))
      obtain ⟨front, ending⟩ := exists_intercalate_concat steps.reverse step
      rw [List.reverse_cons, ending, ← List.append_assoc, List.getLast?_append] at closed
      cases last : step.getLast? with
      | none =>
          rw [List.getLast?_eq_none_iff.1 last] at busy
          cases busy
      | some c =>
          rw [last, Option.some_or] at closed
          exact absurd (List.mem_of_getLast? (last.trans closed)) clean

/-- A slash behind other bytes does not make a trimmed path. -/
theorem IsTrimmed.ne_append_slash (trimmed : p.IsTrimmed) {bytes : Bytes} (some : bytes ≠ []) :
    p.bytes ≠ bytes ++ [slash] := by
  intro same
  have root := trimmed (by rw [same, List.getLast?_concat])
  rw [root] at same
  obtain ⟨c, rest, rfl⟩ := List.exists_cons_of_ne_nil some
  simp at same

/-- A joined path tells the name that was joined. -/
theorem name_eq_of_join_eq {directory directory' : Path} {name name' : Bytes}
    (plain : IsPlain name) (plain' : IsPlain name')
    (same : directory.join name = directory'.join name') : name = name' := by
  have names := congrArg fileName? same
  rwa [fileName?_join _ plain, fileName?_join _ plain', Option.some.injEq] at names

/-- Names inside trimmed directories are told apart by their bytes. -/
theorem join_inj {directory directory' : Path} {name name' : Bytes} (plain : IsPlain name)
    (plain' : IsPlain name') (trimmed : directory.IsTrimmed) (trimmed' : directory'.IsTrimmed) :
    directory.join name = directory'.join name' ↔ directory = directory' ∧ name = name' := by
  refine ⟨fun same => ?_, fun both => by rw [both.1, both.2]⟩
  obtain rfl := name_eq_of_join_eq plain plain' same
  refine ⟨?_, rfl⟩
  obtain ⟨between, whole, front⟩ := join_eq directory plain
  obtain ⟨between', whole', front'⟩ := join_eq directory' plain
  rw [same, whole', List.append_cancel_right_eq] at whole
  have bytes : directory.bytes = directory'.bytes := by
    obtain ⟨rfl, -⟩ | ⟨rfl, some⟩ := front <;> obtain ⟨rfl, -⟩ | ⟨rfl, some'⟩ := front'
    · simpa using whole.symm
    · rw [List.append_nil] at whole
      exact absurd whole.symm (trimmed.ne_append_slash some')
    · rw [List.append_nil] at whole
      exact absurd whole (trimmed'.ne_append_slash some)
    · exact (List.append_cancel_right whole).symm
  exact congrArg Path.mk bytes

end Path

end JackSyntax
