/-
**Escaping is reversible, and its results are known by their shape.**

An escaped text can be told from its shape alone: no bracket stands in it, and every `&` begins an
entity.  Such a text can be cut from the left into entities and plain characters, and each piece is
what a single character becomes.  So escaping reaches all texts of this shape, and no others; and
since the three passes undo it, it reaches each of them from one text only.

Main definitions:

* `unescapeText` — a text with its entities undone.

Main results:

* `IsEscaped.exists_flatMap_eq` — every text of this shape comes from escaping;
* `escape_is_reversible_and_exact` — **escaping is undone by the three passes, it is one to one, and
  its results are exactly the texts of this shape**.
-/

import Mathlib.Data.Set.Image
import JackSyntax.Proofs.Markup.Unescape

set_option relaxedAutoImplicit false
set_option autoImplicit false

namespace JackSyntax

/-- A text with its entities undone, all those of `<` before all those of `>`, and all those of `&`
last. -/
def unescapeText (text : String) : String := String.ofList (unescape text.toList)

/-! ### Texts without markup come from escaping -/

/-- Every entity is what some character becomes. -/
theorem exists_escapeCharacter_eq {name : String} (listed : name ∈ ["lt", "gt", "amp"]) :
    ∃ c, escapeCharacter c = entity name := by
  simp only [List.mem_cons, List.not_mem_nil, or_false] at listed
  rcases listed with rfl | rfl | rfl
  · exact ⟨'<', rfl⟩
  · exact ⟨'>', rfl⟩
  · exact ⟨'&', rfl⟩

theorem escapeCharacter_ne_nil (c : Char) : escapeCharacter c ≠ [] := by
  unfold escapeCharacter
  split <;> exact List.cons_ne_nil _ _

namespace IsEscaped

/-- What stands behind a part of an escaped text is an escaped text. -/
theorem of_append {first second : List Char} (h : IsEscaped (first ++ second)) :
    IsEscaped second := by
  obtain ⟨less, greater, entities⟩ := h
  refine ⟨fun inside => less (List.mem_append_right _ inside),
    fun inside => greater (List.mem_append_right _ inside), fun before behind same => ?_⟩
  refine entities (first ++ before) behind ?_
  rw [same, List.append_assoc]

/-- An escaped text begins with what some character becomes. -/
theorem exists_eq_append {c : Char} {rest : List Char} (h : IsEscaped (c :: rest)) :
    ∃ d behind, c :: rest = escapeCharacter d ++ behind := by
  obtain ⟨less, greater, entities⟩ := h
  by_cases amp : c = '&'
  · subst amp
    obtain ⟨name, listed, behind, rfl⟩ := entities [] rest rfl
    obtain ⟨d, own⟩ := exists_escapeCharacter_eq listed
    exact ⟨d, behind, by rw [own]; rfl⟩
  · have plain : c ∉ markupCharacters := by
      simp only [markupCharacters, List.mem_cons, List.not_mem_nil, or_false, not_or]
      exact ⟨fun same => less (same ▸ List.mem_cons_self),
        fun same => greater (same ▸ List.mem_cons_self), amp⟩
    exact ⟨c, rest, by rw [escapeCharacter_of_not_mem plain]; rfl⟩

/-- Every text of this shape comes from escaping. -/
theorem exists_flatMap_eq {text : List Char} (h : IsEscaped text) :
    ∃ plain : List Char, plain.flatMap escapeCharacter = text := by
  -- a piece is cut off and the same is said of what stands behind it
  induction length : text.length using Nat.strongRecOn generalizing text with
  | ind n ih =>
      cases text with
      | nil => exact ⟨[], rfl⟩
      | cons c rest =>
          obtain ⟨d, behind, same⟩ := h.exists_eq_append
          have shorter : behind.length < n := by
            have piece := List.length_pos_iff.2 (escapeCharacter_ne_nil d)
            rw [← length, same, List.length_append]
            omega
          rw [same] at h
          obtain ⟨plain, escaped⟩ := ih behind.length shorter h.of_append rfl
          exact ⟨d :: plain, by rw [List.flatMap_cons, escaped, same]⟩

end IsEscaped

/-! ### Escaping of texts -/

/-- Escaping is undone by the three passes. -/
theorem unescapeText_escape (text : String) : unescapeText (escape text) = text := by
  rw [unescapeText, toList_escape, unescape_escape, String.ofList_toList]

theorem isEscaped_escape (text : String) : IsEscaped (escape text).toList := by
  rw [toList_escape]
  exact .flatMap_escapeCharacter _

/-- A text without markup is what its unescaped text is escaped to. -/
theorem escape_unescapeText {text : String} (h : IsEscaped text.toList) :
    escape (unescapeText text) = text := by
  obtain ⟨plain, escaped⟩ := h.exists_flatMap_eq
  rw [unescapeText, ← escaped, unescape_escape, escape, String.toList_ofList, escaped,
    String.ofList_toList]

/-- **Escaping is reversible, and its results are known by their shape.**

* The three passes, in their order, give back every text, whatever entities it holds itself.
* No bracket stands in an escaped text, and every `&` in it begins one of the three entities.
* No two texts are escaped to the same one.
* A text is the result of escaping exactly when it has this shape, and then it is the result of
  escaping what the three passes make of it. -/
theorem escape_is_reversible_and_exact :
    (∀ text, unescapeText (escape text) = text) ∧
      (∀ text, IsEscaped (escape text).toList) ∧
      Function.Injective escape ∧
      ∀ text, (text ∈ Set.range escape ↔ IsEscaped text.toList) ∧
        (IsEscaped text.toList ↔ escape (unescapeText text) = text) := by
  refine ⟨unescapeText_escape, isEscaped_escape, ?injective, fun text => ⟨?image, ?inverse⟩⟩
  case injective =>
    exact Function.LeftInverse.injective unescapeText_escape
  case image =>
    constructor
    · rintro ⟨plain, rfl⟩
      exact isEscaped_escape plain
    · exact fun shape => ⟨unescapeText text, escape_unescapeText shape⟩
  case inverse =>
    refine ⟨escape_unescapeText, fun same => ?_⟩
    rw [← same]
    exact isEscaped_escape _

/-- In another order the passes undo too much: here `&amp;` comes first. -/
example : replaceEntity "lt" '<' (replaceEntity "amp" '&' (escape "&lt;").toList) = ['<'] := by
  cbv

end JackSyntax
