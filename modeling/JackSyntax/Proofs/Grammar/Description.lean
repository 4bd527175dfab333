/-
**What a rule describes.**

A rule is read with one token of lookahead, and the classes of its branches and loops say which way
the reading goes.  Without these classes a rule is a regular expression over trees: a branch is a
choice, a loop is a repetition, and nothing else matters.  This module fixes that meaning.  That the
lookahead never goes astray is the subject of `JackSyntax/Proofs/Reading/Completeness.lean`.

Main definitions:

* `Rule.Describes` — a rule describes a row of trees, with at most a given number of recursive
  phrases inside one another;
* `Tree.nesting`, `Tree.nestingAll` — how many recursive phrases of a tree lie inside one another.

Main results:

* `Tree.tokensAll_append`, `Tree.nestingAll_append` — rows of trees can be put together;
* `Rule.Describes.mono` — a described row stays described when more levels are allowed.
-/

import Mathlib.Data.List.Basic
import JackSyntax.Grammar.Jack

set_option relaxedAutoImplicit false
set_option autoImplicit false

namespace JackSyntax

/-! ### Rows of trees -/

namespace Tree

@[simp] theorem tokensAll_nil : tokensAll [] = [] := by rw [tokensAll]

@[simp] theorem tokensAll_cons (tree : Tree) (trees : List Tree) :
    tokensAll (tree :: trees) = tree.tokens ++ tokensAll trees := by rw [tokensAll]

@[simp] theorem tokens_leaf (token : Token) : (leaf token).tokens = [token] := by rw [tokens]

@[simp] theorem tokens_node (phrase : Phrase) (parts : List Tree) :
    (node phrase parts).tokens = tokensAll parts := by rw [tokens]

@[simp] theorem tokensAll_append (first second : List Tree) :
    tokensAll (first ++ second) = tokensAll first ++ tokensAll second := by
  induction first with
  | nil => simp
  | cons tree trees ih => simp [ih]

end Tree

/-- Whether a phrase is one of the recursive ones. -/
def Phrase.isRecursive : Phrase → Bool
  | .term | .statements => true
  | _ => false

namespace Tree

mutual

/-- The number of recursive phrases that lie inside one another on the way from the root of a tree
to the deepest of its nodes, that node included. -/
def nesting : Tree → Nat
  | .leaf _ => 0
  | .node phrase parts => nestingAll parts + if phrase.isRecursive then 1 else 0

/-- The largest nesting among the trees of a row. -/
def nestingAll : List Tree → Nat
  | [] => 0
  | tree :: trees => max (nesting tree) (nestingAll trees)

end

@[simp] theorem nesting_leaf (token : Token) : (leaf token).nesting = 0 := by rw [nesting]

@[simp] theorem nesting_node (phrase : Phrase) (parts : List Tree) :
    (node phrase parts).nesting = nestingAll parts + if phrase.isRecursive then 1 else 0 := by
  rw [nesting]

@[simp] theorem nestingAll_nil : nestingAll [] = 0 := by rw [nestingAll]

@[simp] theorem nestingAll_cons (tree : Tree) (trees : List Tree) :
    nestingAll (tree :: trees) = max tree.nesting (nestingAll trees) := by rw [nestingAll]

@[simp] theorem nestingAll_append (first second : List Tree) :
    nestingAll (first ++ second) = max (nestingAll first) (nestingAll second) := by
  induction first with
  | nil => simp
  | cons tree trees ih => simp [ih, Nat.max_assoc]

/-- A row of trees nests as deeply as the deepest of them, however many there are. -/
theorem nestingAll_le_iff (row : List Tree) (limit : Nat) :
    nestingAll row ≤ limit ↔ ∀ tree ∈ row, tree.nesting ≤ limit := by
  induction row with
  | nil => simp
  | cons tree row ih => rw [nestingAll_cons, Nat.max_le, ih, List.forall_mem_cons]

end Tree

/-! ### Rules as regular expressions over trees -/

namespace Rule

/-- `Describes levels rule row`: the rule describes the row of trees, with at most `levels`
recursive phrases inside one another.  The classes that guard branches and loops play no part. -/
inductive Describes : Nat → Rule → List Tree → Prop
  | empty (levels : Nat) : Describes levels .empty []
  | token (levels : Nat) {terminal : Terminal} {token : Token} :
      terminal.admits token = true → Describes levels (.token terminal) [.leaf token]
  | seq {levels : Nat} {first second : Rule} {row row' : List Tree} :
      Describes levels first row → Describes levels second row' →
      Describes levels (.seq first second) (row ++ row')
  | element {levels : Nat} (phrase : Phrase) {body : Rule} {row : List Tree} :
      Describes levels body row → Describes levels (.element phrase body) [.node phrase row]
  | yes {levels : Nat} (terminal : Terminal) {yes : Rule} (no : Rule) {row : List Tree} :
      Describes levels yes row → Describes levels (.branch terminal yes no) row
  | no {levels : Nat} (terminal : Terminal) (yes : Rule) {no : Rule} {row : List Tree} :
      Describes levels no row → Describes levels (.branch terminal yes no) row
  | done (levels : Nat) (terminal : Terminal) (body : Rule) :
      Describes levels (.loop terminal body) []
  | more {levels : Nat} {terminal : Terminal} {body : Rule} {row row' : List Tree} :
      Describes levels body row → Describes levels (.loop terminal body) row' →
      Describes levels (.loop terminal body) (row ++ row')
  | nested {levels : Nat} {phrase : Recursive} {row : List Tree} :
      Describes levels (Grammar.body phrase) row → Describes (levels + 1) (.nested phrase) row

namespace Describes

variable {levels levels' : Nat} {first second body yes no : Rule} {terminal : Terminal}
  {phrase : Phrase} {row : List Tree}

/-- More levels describe no fewer rows. -/
theorem mono {rule : Rule} (h : Describes levels rule row) (le : levels ≤ levels') :
    Describes levels' rule row := by
  induction h generalizing levels' with
  | empty => exact .empty _
  | token _ admitted => exact .token _ admitted
  | seq _ _ ih₁ ih₂ => exact .seq (ih₁ le) (ih₂ le)
  | element phrase _ ih => exact .element phrase (ih le)
  | yes terminal no _ ih => exact .yes terminal no (ih le)
  | no terminal yes _ ih => exact .no terminal yes (ih le)
  | done _ terminal body => exact .done _ terminal body
  | more _ _ ih₁ ih₂ => exact .more (ih₁ le) (ih₂ le)
  | nested _ ih =>
      obtain ⟨below, rfl⟩ : ∃ below, levels' = below + 1 := ⟨levels' - 1, by omega⟩
      exact .nested (ih (by omega))

@[simp] theorem empty_iff : Describes levels .empty row ↔ row = [] :=
  ⟨fun h => by cases h; rfl, fun h => h ▸ .empty _⟩

theorem token_iff : Describes levels (.token terminal) row ↔
    ∃ token, terminal.admits token = true ∧ row = [.leaf token] := by
  constructor
  · intro h
    cases h with
    | token _ admitted => exact ⟨_, admitted, rfl⟩
  · rintro ⟨token, admitted, rfl⟩
    exact .token _ admitted

@[simp] theorem not_refuse : ¬ Describes levels (.refuse terminal) row := by
  rintro ⟨⟩

theorem seq_iff : Describes levels (.seq first second) row ↔
    ∃ left right, Describes levels first left ∧ Describes levels second right ∧
      row = left ++ right := by
  constructor
  · intro h
    cases h with
    | seq h₁ h₂ => exact ⟨_, _, h₁, h₂, rfl⟩
  · rintro ⟨left, right, h₁, h₂, rfl⟩
    exact .seq h₁ h₂

theorem element_iff : Describes levels (.element phrase body) row ↔
    ∃ parts, Describes levels body parts ∧ row = [.node phrase parts] := by
  constructor
  · intro h
    cases h with
    | element _ inner => exact ⟨_, inner, rfl⟩
  · rintro ⟨parts, inner, rfl⟩
    exact .element _ inner

theorem branch_iff : Describes levels (.branch terminal yes no) row ↔
    Describes levels yes row ∨ Describes levels no row := by
  constructor
  · intro h
    cases h with
    | yes _ _ h => exact Or.inl h
    | no _ _ h => exact Or.inr h
  · rintro (h | h)
    · exact .yes _ _ h
    · exact .no _ _ h

theorem nested_iff {phrase : Recursive} : Describes levels (.nested phrase) row ↔
    ∃ below, levels = below + 1 ∧ Describes below (Grammar.body phrase) row := by
  constructor
  · intro h
    cases h with
    | nested inner => exact ⟨_, rfl, inner⟩
  · rintro ⟨below, rfl, inner⟩
    exact .nested inner

end Describes

end Rule

end JackSyntax
