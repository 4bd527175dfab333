/-
**Undoing the escaping.**

The three entities are undone one after the other, each by a pass over the whole text: first `&lt;`,
then `&gt;`, and `&amp;` last.  In this order no pass meets an entity that another pass has put
together: what stands before a pass is a text in which some characters are escaped, and behind it
one character less is.

Main definitions:

* `replaceEntity` — a text with a character in the place of every entity of a given name;
* `unescape` — a text with all three entities undone;
* `escapeBut` — escaping with some characters left as they are;
* `IsEscaped` — a text without markup but for entities;
* `Token.IsPrintable` — the value of a token in its element is a single line without markup.

Main results:

* `replaceEntity_escapeBut` — what one pass does to one escaped character;
* `unescape_escape` — **escaping is undone**;
* `IsEscaped.flatMap_escapeCharacter` — escaping leaves no markup in a text;
* `Token.unescape_markup` — the lexeme of a token is found in its element.
-/

import Mathlib.Data.List.Basic
import JackSyntax.Markup.Writer
import JackSyntax.Proofs.Lexing.Spelling

set_option relaxedAutoImplicit false
set_option autoImplicit false

namespace JackSyntax

/-! ### Entities -/

/-- The entity of the given name. -/
def entity (name : String) : List Char := '&' :: (name.toList ++ [';'])

/-- A text with `character` in the place of every entity of the given name, from left to right. -/
def replaceEntity (name : String) (character : Char) : List Char → List Char
  | [] => []
  | c :: text =>
      match _h : (c :: text).dropPrefix? (entity name) with
      | some rest => character :: replaceEntity name character rest
      | none => c :: replaceEntity name character text
termination_by text => text.length
decreasing_by
  · obtain ⟨front, same, matched⟩ := List.dropPrefix?_eq_some_iff.1 _h
    have longer := congrArg List.length same
    rw [eq_of_beq matched, List.length_append, entity, List.length_cons (a := '&')] at longer
    omega
  · simp

/-- A text with its entities undone: first those of `<`, then those of `>`, then those of `&`. -/
def unescape (text : List Char) : List Char :=
  replaceEntity "amp" '&' (replaceEntity "gt" '>' (replaceEntity "lt" '<' text))

section

variable {name : String} {character : Char}

/-- An entity at the head of a text is replaced. -/
theorem replaceEntity_of_some {text rest : List Char}
    (h : text.dropPrefix? (entity name) = some rest) :
    replaceEntity name character text = character :: replaceEntity name character rest := by
  cases text with
  | nil => simp [entity, List.dropPrefix?] at h
  | cons c text =>
      rw [replaceEntity]
      split
      · rename_i rest' h'
        obtain rfl := Option.some.inj (h.symm.trans h')
        rfl
      · rename_i h'
        rw [h] at h'
        cases h'

/-- A character stays where no entity of the name begins. -/
theorem replaceEntity_of_none {c : Char} {text : List Char}
    (h : (c :: text).dropPrefix? (entity name) = none) :
    replaceEntity name character (c :: text) = c :: replaceEntity name character text := by
  rw [replaceEntity]
  split
  · rename_i rest h'
    rw [h] at h'
    cases h'
  · rfl

/-- No entity begins where no `&` stands. -/
theorem replaceEntity_append {text : List Char} (none : '&' ∉ text) (rest : List Char) :
    replaceEntity name character (text ++ rest) = text ++ replaceEntity name character rest := by
  induction text with
  | nil => rfl
  | cons c text ih =>
      obtain ⟨other, none⟩ := List.ne_and_not_mem_of_not_mem_cons none
      have stays : (c :: (text ++ rest)).dropPrefix? (entity name) = Option.none := by
        simp [entity, List.dropPrefix?, Ne.symm other]
      rw [List.cons_append, replaceEntity_of_none stays, ih none, List.cons_append]

end

/-! ### One pass -/

/-- The characters that are escaped. -/
def markupCharacters : List Char := ['<', '>', '&']

theorem escapeCharacter_of_not_mem {c : Char} (plain : c ∉ markupCharacters) :
    escapeCharacter c = [c] := by
  simp only [markupCharacters, List.mem_cons, List.not_mem_nil, or_false, not_or] at plain
  unfold escapeCharacter
  split
  · exact absurd rfl plain.1
  · exact absurd rfl plain.2.1
  · exact absurd rfl plain.2.2
  · rfl

/-- No entity is the beginning of another one. -/
theorem dropPrefix?_escapeCharacter {c d : Char} (hc : c ∈ markupCharacters)
    (hd : d ∈ markupCharacters) (differ : c ≠ d) (rest : List Char) :
    (escapeCharacter c ++ rest).dropPrefix? (escapeCharacter d) = none := by
  simp only [markupCharacters, List.mem_cons, List.not_mem_nil, or_false] at hc hd
  rcases hc with rfl | rfl | rfl <;> rcases hd with rfl | rfl | rfl <;>
    first
    | exact absurd rfl differ
    | simp [escapeCharacter, List.dropPrefix?]

theorem escapeCharacter_eq_cons {c : Char} (h : c ∈ markupCharacters) :
    ∃ name, escapeCharacter c = '&' :: name ∧ '&' ∉ name := by
  simp only [markupCharacters, List.mem_cons, List.not_mem_nil, or_false] at h
  rcases h with rfl | rfl | rfl
  · exact ⟨_, rfl, by decide⟩
  · exact ⟨_, rfl, by decide⟩
  · exact ⟨_, rfl, by decide⟩

/-- What becomes of a character when the characters of `kept` are left as they are. -/
def escapeBut (kept : List Char) (c : Char) : List Char :=
  if c ∈ kept then [c] else escapeCharacter c

/-- A pass for a character leaves that character as it is and every other one as it was.  The pass
for `&` has to come last. -/
theorem replaceEntity_escapeBut {name : String} {character : Char} {kept : List Char}
    (markup : character ∈ markupCharacters) (own : escapeCharacter character = entity name)
    (later : '&' ∉ kept) (unkept : character ∉ kept) (c : Char) (rest : List Char) :
    replaceEntity name character (escapeBut kept c ++ rest) =
      escapeBut (character :: kept) c ++ replaceEntity name character rest := by
  by_cases same : c = character
  · subst same
    have found : (entity name ++ rest).dropPrefix? (entity name) = some rest :=
      List.dropPrefix?_append_of_beq rest (beq_self_eq_true _)
    simp only [escapeBut, if_neg unkept, own, replaceEntity_of_some found, List.mem_cons_self,
      if_true]
    rfl
  · have alike : escapeBut (character :: kept) c = escapeBut kept c := by
      simp [escapeBut, same]
    rw [alike]
    by_cases escaped : c ∉ kept ∧ c ∈ markupCharacters
    · -- an entity of another character: it is none of ours, and no further `&` stands in it
      obtain ⟨tail, shape, none⟩ := escapeCharacter_eq_cons escaped.2
      have stays := dropPrefix?_escapeCharacter escaped.2 markup same rest
      rw [own, shape, List.cons_append] at stays
      rw [escapeBut, if_neg escaped.1, shape, List.cons_append, replaceEntity_of_none stays,
        replaceEntity_append none, List.cons_append]
    · have stays : escapeBut kept c = [c] := by
        by_cases inside : c ∈ kept
        · rw [escapeBut, if_pos inside]
        · rw [escapeBut, if_neg inside,
            escapeCharacter_of_not_mem fun markup => escaped ⟨inside, markup⟩]
      rw [stays]
      refine replaceEntity_append (fun amp => ?_) rest
      obtain rfl := List.mem_singleton.1 amp
      exact escaped ⟨later, by decide⟩

/-- What a pass does to every character it does to a text. -/
theorem replaceEntity_flatMap {name : String} {character : Char} {kept : List Char}
    (markup : character ∈ markupCharacters) (own : escapeCharacter character = entity name)
    (later : '&' ∉ kept) (unkept : character ∉ kept) (text : List Char) :
    replaceEntity name character (text.flatMap (escapeBut kept)) =
      text.flatMap (escapeBut (character :: kept)) := by
  induction text with
  | nil => simp [replaceEntity]
  | cons c text ih =>
      rw [List.flatMap_cons, replaceEntity_escapeBut markup own later unkept, ih, List.flatMap_cons]

/-! ### All passes -/

/-- Escaping is undone. -/
theorem unescape_escape (text : List Char) : unescape (text.flatMap escapeCharacter) = text := by
  have nothing : escapeBut [] = escapeCharacter := by
    funext c
    simp [escapeBut]
  have everything : escapeBut ['&', '>', '<'] = fun c => [c] := by
    funext c
    by_cases inside : c ∈ ['&', '>', '<']
    · rw [escapeBut, if_pos inside]
    · rw [escapeBut, if_neg inside]
      refine escapeCharacter_of_not_mem fun markup => inside ?_
      simp only [markupCharacters, List.mem_cons, List.not_mem_nil, or_false] at markup ⊢
      rcases markup with rfl | rfl | rfl <;> simp
  have first : replaceEntity "lt" '<' (text.flatMap (escapeBut [])) =
      text.flatMap (escapeBut ['<']) :=
    replaceEntity_flatMap (by decide) (by decide) (by decide) (by decide) text
  have second : replaceEntity "gt" '>' (text.flatMap (escapeBut ['<'])) =
      text.flatMap (escapeBut ['>', '<']) :=
    replaceEntity_flatMap (by decide) (by decide) (by decide) (by decide) text
  have third : replaceEntity "amp" '&' (text.flatMap (escapeBut ['>', '<'])) =
      text.flatMap (escapeBut ['&', '>', '<']) :=
    replaceEntity_flatMap (by decide) (by decide) (by decide) (by decide) text
  rw [unescape, ← nothing, first, second, third, everything]
  simp

/-! ### Escaped texts -/

/-- No bracket stands in the text, and every `&` begins one of the three entities. -/
def IsEscaped (text : List Char) : Prop :=
  '<' ∉ text ∧ '>' ∉ text ∧
    ∀ before behind, text = before ++ '&' :: behind →
      ∃ name ∈ ["lt", "gt", "amp"], name.toList ++ [';'] <+: behind

namespace IsEscaped

/-- An entity is not broken by what stands around it. -/
theorem append {first second : List Char} (h : IsEscaped first) (h' : IsEscaped second) :
    IsEscaped (first ++ second) := by
  obtain ⟨less, greater, entities⟩ := h
  obtain ⟨less', greater', entities'⟩ := h'
  refine ⟨by simp [less, less'], by simp [greater, greater'], fun before behind same => ?_⟩
  rcases List.append_eq_append_iff.1 same with ⟨between, rfl, rest⟩ | ⟨between, rfl, rest⟩
  · exact entities' between behind rest
  · cases between with
    | nil => exact entities' [] behind rest.symm
    | cons c between =>
        obtain ⟨rfl, rfl⟩ := List.cons.inj rest
        obtain ⟨name, listed, front⟩ := entities before between rfl
        exact ⟨name, listed, front.trans (List.prefix_append between second)⟩

/-- A character without meaning in a markup is an escaped text. -/
theorem singleton {c : Char} (plain : c ∉ markupCharacters) : IsEscaped [c] := by
  simp only [markupCharacters, List.mem_cons, List.not_mem_nil, or_false, not_or] at plain
  obtain ⟨less, greater, amp⟩ := plain
  refine ⟨by simpa using Ne.symm less, by simpa using Ne.symm greater, fun before behind same => ?_⟩
  have inside : '&' ∈ [c] := same ▸ by simp
  exact absurd (List.mem_singleton.1 inside).symm amp

/-- An entity is an escaped text. -/
theorem entity {name : String} (listed : name ∈ ["lt", "gt", "amp"]) :
    IsEscaped (entity name) := by
  have plain : ∀ c ∈ markupCharacters, c ∉ name.toList ++ [';'] := by
    simp only [List.mem_cons, List.not_mem_nil, or_false] at listed
    rcases listed with rfl | rfl | rfl <;> simp [markupCharacters]
  refine ⟨?_, ?_, fun before behind same => ?_⟩
  · exact List.not_mem_cons_of_ne_of_not_mem (by decide) (plain '<' (by decide))
  · exact List.not_mem_cons_of_ne_of_not_mem (by decide) (plain '>' (by decide))
  · cases before with
    | nil => exact ⟨name, listed, (List.cons.inj same).2 ▸ List.prefix_rfl⟩
    | cons c before =>
        have inside : '&' ∈ name.toList ++ [';'] := (List.cons.inj same).2 ▸ by simp
        exact absurd inside (plain '&' (by decide))

/-- Escaping leaves no markup in a text. -/
theorem flatMap_escapeCharacter (text : List Char) : IsEscaped (text.flatMap escapeCharacter) := by
  induction text with
  | nil => exact ⟨by simp, by simp, by simp⟩
  | cons c text ih =>
      refine append ?_ ih
      by_cases markup : c ∈ markupCharacters
      · simp only [markupCharacters, List.mem_cons, List.not_mem_nil, or_false] at markup
        rcases markup with rfl | rfl | rfl
        · exact entity (by decide : "lt" ∈ ["lt", "gt", "amp"])
        · exact entity (by decide : "gt" ∈ ["lt", "gt", "amp"])
        · exact entity (by decide : "amp" ∈ ["lt", "gt", "amp"])
      · rw [escapeCharacter_of_not_mem markup]
        exact singleton markup

end IsEscaped

/-! ### Tokens -/

/-- The characters of identifiers are written as they are. -/
theorem flatMap_escapeCharacter {text : List Char} (parts : ∀ c ∈ text, isIdentifierPart c = true) :
    text.flatMap escapeCharacter = text := by
  have plain : ∀ c ∈ text, escapeCharacter c = [c] := by
    intro c inside
    refine escapeCharacter_of_not_mem fun markup => ?_
    have part := parts c inside
    simp only [markupCharacters, List.mem_cons, List.not_mem_nil, or_false] at markup
    rcases markup with rfl | rfl | rfl
    · exact absurd part (by decide)
    · exact absurd part (by decide)
    · exact absurd part (by decide)
  rw [List.flatMap_congr plain, List.flatMap_singleton']

/-- No line feed comes out of the escaping. -/
theorem not_mem_flatMap_escapeCharacter {text : List Char} (h : '\n' ∉ text) :
    '\n' ∉ text.flatMap escapeCharacter := by
  intro feed
  obtain ⟨c, inside, escaped⟩ := List.mem_flatMap.1 feed
  by_cases markup : c ∈ markupCharacters
  · simp only [markupCharacters, List.mem_cons, List.not_mem_nil, or_false] at markup
    rcases markup with rfl | rfl | rfl
    · exact absurd escaped (by decide)
    · exact absurd escaped (by decide)
    · exact absurd escaped (by decide)
  · rw [escapeCharacter_of_not_mem markup] at escaped
    exact h (List.mem_singleton.1 escaped ▸ inside)

namespace Token

variable {token : Token}

/-- The value of a token in its element is its lexeme, escaped. -/
theorem toList_markup (lexical : token.IsLexical) :
    token.markup.toList = token.lexeme.toList.flatMap escapeCharacter := by
  cases token with
  | keyword | integerConstant | identifier =>
      exact (flatMap_escapeCharacter (isIdentifierPart_of_mem_lexeme lexical rfl)).symm
  | symbol | stringConstant => exact toList_escape _

/-- The lexeme of a token is found in its element. -/
theorem unescape_markup (lexical : token.IsLexical) :
    unescape token.markup.toList = token.lexeme.toList := by
  rw [toList_markup lexical, unescape_escape]

/-- No token holds a line feed. -/
theorem newline_not_mem_lexeme (lexical : token.IsLexical) : '\n' ∉ token.lexeme.toList := by
  intro feed
  cases token with
  | keyword | integerConstant | identifier =>
      exact absurd (isIdentifierPart_of_mem_lexeme lexical rfl _ feed) (by decide)
  | symbol c =>
      have same : '\n' = c := by simpa [lexeme] using feed
      subst same
      have listed : '\n' ∈ symbols.toList := lexical
      exact absurd listed (by decide)
  | stringConstant text => exact absurd (lexical _ feed) (by decide)

theorem newline_not_mem_markup (lexical : token.IsLexical) : '\n' ∉ token.markup.toList := by
  rw [toList_markup lexical]
  exact not_mem_flatMap_escapeCharacter (newline_not_mem_lexeme lexical)

/-- Whatever a token holds, no markup is in its element. -/
theorem isEscaped_markup (lexical : token.IsLexical) : IsEscaped token.markup.toList := by
  rw [toList_markup lexical]
  exact .flatMap_escapeCharacter _

/-- The value of a token in its element is a single line without markup. -/
def IsPrintable (token : Token) : Prop :=
  IsEscaped token.markup.toList ∧ '\n' ∉ token.markup.toList

theorem IsLexical.isPrintable (lexical : token.IsLexical) : token.IsPrintable :=
  ⟨isEscaped_markup lexical, newline_not_mem_markup lexical⟩

/-- It does not matter for an identifier whether it is spelled like a keyword. -/
theorem isPrintable_identifier {name : String}
    (parts : ∀ c ∈ name.toList, isIdentifierPart c = true) : (identifier name).IsPrintable := by
  constructor
  · have escaped := IsEscaped.flatMap_escapeCharacter name.toList
    rwa [flatMap_escapeCharacter parts] at escaped
  · intro feed
    exact absurd (parts _ feed) (by decide)

end Token

end JackSyntax
