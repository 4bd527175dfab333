/-
**Classes of characters and how they meet.**

A keyword ends where a Unicode word ends, an identifier where its ASCII characters end.  The two
notions agree inside ASCII; a character on which they differ is neither white space nor the
beginning of any token.

Main results:

* `isWordCharacter_iff_of_lt` — among the ASCII characters, the word characters are those of
  identifiers;
* `not_isWordCharacter_of_isWhiteSpace` — white space is in no word;
* `count_dropWhile`, `takeWhile_append_of_stops` — runs of characters of a class.
-/

import Mathlib.Data.List.TakeWhile
import JackSyntax.Source.Lexeme

set_option relaxedAutoImplicit false
set_option autoImplicit false

namespace JackSyntax

/-! ### Runs of characters -/

/-- Dropping a run without line feeds drops no line feed. -/
theorem count_dropWhile {p : Char → Bool} (none : p '\n' = false) (text : List Char) :
    (text.dropWhile p).count '\n' = text.count '\n' := by
  induction text with
  | nil => rfl
  | cons c text ih =>
      by_cases accepted : p c = true
      · have other : (c == '\n') = false := by
          refine beq_false_of_ne fun same => ?_
          rw [same, none] at accepted
          cases accepted
        rw [List.dropWhile_cons_of_pos accepted, ih, List.count_cons, other]
        simp
      · rw [List.dropWhile_cons_of_neg accepted]

/-- A run is not empty where the first character belongs to it. -/
theorem takeWhile_cons_ne_nil {p : Char → Bool} {c : Char} (accepted : p c = true)
    (text : List Char) : (c :: text).takeWhile p ≠ [] := by
  rw [List.takeWhile_cons_of_pos accepted]
  exact List.cons_ne_nil _ _

/-- A text stops a class of characters if it does not go on with one of them. -/
def Stops (p : Char → Bool) (text : List Char) : Prop := ∀ c ∈ text.head?, p c = false

theorem stops_nil (p : Char → Bool) : Stops p [] := by
  intro c impossible
  cases impossible

theorem stops_cons {p : Char → Bool} {c : Char} {text : List Char} :
    Stops p (c :: text) ↔ p c = false := by
  simp [Stops]

theorem stops_dropWhile (p : Char → Bool) (text : List Char) : Stops p (text.dropWhile p) := by
  intro c ahead
  have refused := List.head?_dropWhile_not p text
  rw [Option.mem_def.1 ahead] at refused
  simpa using refused

/-- A run ends where its class is stopped. -/
theorem takeWhile_append_of_stops {p : Char → Bool} {run rest : List Char}
    (all : ∀ c ∈ run, p c = true) (stops : Stops p rest) :
    (run ++ rest).takeWhile p = run ∧ (run ++ rest).dropWhile p = rest := by
  rw [List.takeWhile_append_of_pos all, List.dropWhile_append_of_pos all]
  cases rest with
  | nil => simp
  | cons c rest =>
      have refused := stops_cons.1 stops
      simp [refused]

/-! ### ASCII and other characters -/

theorem isAlpha_iff (c : Char) :
    c.isAlpha = true ↔ 65 ≤ c.toNat ∧ c.toNat ≤ 90 ∨ 97 ≤ c.toNat ∧ c.toNat ≤ 122 := by
  change (decide (65 ≤ c.val ∧ c.val ≤ 90) || decide (97 ≤ c.val) && decide (c.val ≤ 122)) =
    true ↔ _
  simp only [Bool.or_eq_true, Bool.and_eq_true, decide_eq_true_eq, UInt32.le_iff_toNat_le]
  rfl

theorem isDigit_iff (c : Char) : c.isDigit = true ↔ 48 ≤ c.toNat ∧ c.toNat ≤ 57 := by
  change (decide (48 ≤ c.val) && decide (c.val ≤ 57)) = true ↔ _
  simp only [Bool.and_eq_true, decide_eq_true_eq, UInt32.le_iff_toNat_le]
  rfl

theorem isAlphanum_lt {c : Char} (h : c.isAlphanum = true) : c.toNat < 128 := by
  rw [Char.isAlphanum, Bool.or_eq_true, isAlpha_iff, isDigit_iff] at h
  omega

theorem isIdentifierPart_lt {c : Char} (h : isIdentifierPart c = true) : c.toNat < 128 := by
  simp only [isIdentifierPart, Bool.or_eq_true, beq_iff_eq] at h
  rcases h with h | rfl
  · exact isAlphanum_lt h
  · decide

/-- Among the ASCII characters, the word characters are those of identifiers. -/
theorem isWordCharacter_iff_of_lt {c : Char} (ascii : c.toNat < 128) :
    isWordCharacter c = true ↔ isIdentifierPart c = true := by
  have table : ∀ n < 128, wordCharacterRanges.contains n = isIdentifierPart (Char.ofNat n) := by
    decide +kernel
  rw [isWordCharacter, table c.toNat ascii, Char.ofNat_toNat]

theorem isWordCharacter_of_isIdentifierPart {c : Char} (h : isIdentifierPart c = true) :
    isWordCharacter c = true :=
  (isWordCharacter_iff_of_lt (isIdentifierPart_lt h)).2 h

theorem isIdentifierPart_of_isDigit {c : Char} (h : c.isDigit = true) :
    isIdentifierPart c = true := by
  simp [isIdentifierPart, Char.isAlphanum, h]

/-- The keywords are written with identifier characters. -/
theorem ofSpelling?_of_foreign {word : List Char} {c : Char} (inside : c ∈ word)
    (foreign : isIdentifierPart c = false) : Keyword.ofSpelling? (String.ofList word) = none := by
  cases spelled : Keyword.ofSpelling? (String.ofList word) with
  | none => rfl
  | some keyword =>
      have spelling := Keyword.spelling_of_ofSpelling? spelled
      have letters : keyword.spelling.toList.all isIdentifierPart = true := by
        cases keyword <;> decide
      rw [spelling, String.toList_ofList] at letters
      rw [List.all_eq_true.1 letters c inside] at foreign
      cases foreign

/-- White space is in no word. -/
theorem not_isWordCharacter_of_isWhiteSpace {c : Char} (h : isWhiteSpace c = true) :
    isWordCharacter c = false := by
  have table : ∀ r ∈ whiteSpaceRanges, ∀ n ∈ List.range' r.1 (r.2 + 1 - r.1),
      wordCharacterRanges.contains n = false := by
    decide +kernel
  rw [isWhiteSpace, whiteSpaceRanges.contains_eq_any _ whiteSpaceRanges_ascending,
    List.any_eq_true] at h
  obtain ⟨r, listed, inside⟩ := h
  simp only [Bool.and_eq_true, decide_eq_true_eq] at inside
  exact table r listed c.toNat (List.mem_range'_1.2 (by omega))

theorem not_isWhiteSpace_of_isIdentifierPart {c : Char} (h : isIdentifierPart c = true) :
    isWhiteSpace c = false := by
  refine Bool.eq_false_iff.2 fun blank => ?_
  have word := isWordCharacter_of_isIdentifierPart h
  rw [not_isWordCharacter_of_isWhiteSpace blank] at word
  cases word

/-- A symbol is in no word, is no white space and begins no constant. -/
theorem not_isWordCharacter_of_symbol {c : Char} (h : c ∈ symbols.toList) :
    isWordCharacter c = false ∧ isWhiteSpace c = false ∧ c ≠ '"' := by
  have table :
      (symbols.toList.all fun c => !isWordCharacter c && !isWhiteSpace c && c != '"') = true := by
    decide +kernel
  have refused := List.all_eq_true.1 table c h
  simpa [and_assoc] using refused

/-- No character of an identifier is a symbol or a quote. -/
theorem not_symbol_of_isIdentifierPart {c : Char} (h : isIdentifierPart c = true) :
    c ∉ symbols.toList ∧ c ≠ '"' := by
  constructor
  · intro listed
    have word := isWordCharacter_of_isIdentifierPart h
    rw [(not_isWordCharacter_of_symbol listed).1] at word
    cases word
  · rintro rfl
    exact absurd h (by decide)

/-- No identifier begins with a digit. -/
theorem not_isDigit_of_isIdentifierStart {c : Char} (h : isIdentifierStart c = true) :
    c.isDigit = false := by
  rw [← Bool.not_eq_true, isDigit_iff]
  rw [isIdentifierStart, Bool.or_eq_true, isAlpha_iff, beq_iff_eq] at h
  rcases h with h | rfl
  · omega
  · decide

/-- A word character that belongs to no identifier begins neither trivia nor a token. -/
theorem foreign_word_character {c : Char} (word : isWordCharacter c = true)
    (foreign : isIdentifierPart c = false) :
    isWhiteSpace c = false ∧ c ∉ symbols.toList ∧ c.isDigit = false ∧ c ≠ '"' ∧
      isIdentifierStart c = false := by
  refine ⟨?_, ?_, ?_, ?_, ?_⟩
  · refine Bool.eq_false_iff.2 fun blank => ?_
    rw [not_isWordCharacter_of_isWhiteSpace blank] at word
    cases word
  · intro listed
    rw [(not_isWordCharacter_of_symbol listed).1] at word
    cases word
  · refine Bool.eq_false_iff.2 fun digit => ?_
    rw [isIdentifierPart_of_isDigit digit] at foreign
    cases foreign
  · rintro rfl
    revert word
    decide +kernel
  · refine Bool.eq_false_iff.2 fun start => ?_
    rw [isIdentifierPart_of_start start] at foreign
    cases foreign

end JackSyntax
