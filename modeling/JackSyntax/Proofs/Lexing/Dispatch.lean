/-
**Tokens by their first characters.**

The patterns of tokens are tried one after the other, but the first character of a text leaves at
most two of them.  Symbols, digits and quotes begin no word, so that only a letter or an underscore
leads to a keyword or to an identifier.

Main definitions:

* `readString` — the string constant behind an opening quote;
* `readWord` — the keyword or identifier at the head of a text.

Main results:

* `readToken_cons` — **a token is chosen by its first character**;
* `readToken_cases` — the same choice, case by case.
-/

import Mathlib.Logic.Basic
import Mathlib.Data.Option.Basic
import Mathlib.Tactic.SplitIfs
import JackSyntax.Proofs.Lexing.Characters
import JackSyntax.Source.Lexeme

set_option relaxedAutoImplicit false
set_option autoImplicit false

namespace JackSyntax

/-- The string constant whose opening quote stands before `text`. -/
def readString (text : List Char) : Match :=
  match text.dropWhile isStringPart with
  | '"' :: rest => .ok (.stringConstant (String.ofList (text.takeWhile isStringPart)), rest)
  | _ => unexpectedToken ('"' :: text)

/-- The keyword or identifier at the head of a text that begins with a letter or an underscore. -/
def readWord (text : List Char) : Token × List Char :=
  match Keyword.ofSpelling? (String.ofList (text.takeWhile isWordCharacter)) with
  | some word => (.keyword word, text.dropWhile isWordCharacter)
  | none =>
      (.identifier (String.ofList (text.takeWhile isIdentifierPart)),
        text.dropWhile isIdentifierPart)

/-! ### Which patterns are left -/

/-- A keyword begins with a letter. -/
theorem head?_spelling (k : Keyword) : k.spelling.toList.head?.any Char.isAlpha = true := by
  cases k <;> decide

/-- No keyword is found where no letter is. -/
theorem readKeyword?_eq_none {c : Char} {rest : List Char} (other : c.isAlpha = false) :
    readKeyword? (c :: rest) = none := by
  rw [readKeyword?, Option.map_eq_none_iff]
  by_contra found
  obtain ⟨k, found⟩ := Option.ne_none_iff_exists'.1 found
  have letter := head?_spelling k
  rw [Keyword.spelling_of_ofSpelling? found, String.toList_ofList] at letter
  cases accepted : isWordCharacter c with
  | true =>
      rw [List.takeWhile_cons_of_pos accepted, List.head?_cons, Option.any_some, other] at letter
      cases letter
  | false =>
      rw [List.takeWhile_cons_of_neg (by simp [accepted])] at letter
      cases letter

/-- Neither a symbol nor a quote is a digit, and none of these is a letter or an underscore. -/
theorem symbol_not_digit {c : Char} (symbol : symbols.toList.contains c = true) :
    c.isDigit = false ∧ isIdentifierStart c = false ∧ c.isAlpha = false := by
  have each : (symbols.toList.all fun d =>
      d.isDigit = false ∧ isIdentifierStart d = false ∧ d.isAlpha = false) = true := by decide
  exact of_decide_eq_true (List.all_eq_true.1 each c (List.contains_iff_mem.1 symbol))

theorem digit_not_alpha {c : Char} (digit : c.isDigit = true) : c.isAlpha = false := by
  rw [isDigit_iff] at digit
  rw [Bool.eq_false_iff, ne_eq, isAlpha_iff]
  omega

theorem readInteger?_eq_none {c : Char} {rest : List Char} (other : c.isDigit = false) :
    readInteger? (c :: rest) = none := by
  rw [readInteger?, List.takeWhile_cons_of_neg (by simp [other]), if_pos rfl]

theorem readInteger?_eq_some {c : Char} {rest : List Char} (digit : c.isDigit = true) :
    readInteger? (c :: rest) = some (readInteger (c :: rest)) := by
  rw [readInteger?, List.takeWhile_cons_of_pos digit, if_neg (List.cons_ne_nil _ _)]

theorem readString?_eq_none {c : Char} {rest : List Char} (other : c ≠ '"') :
    readString? (c :: rest) = none := by
  rw [readString?]
  simpa using other

/-- An opening quote leads to a string constant, or to no token. -/
theorem getD_readString? (text : List Char) :
    (readString? ('"' :: text)).getD (unexpectedToken ('"' :: text)) = readString text := by
  cases closing : text.dropWhile isStringPart with
  | nil => simp only [readString?, readString, closing, Option.getD_none]
  | cons c rest =>
      by_cases quote : c = '"'
      · subst quote
        simp only [readString?, readString, closing, Option.getD_some]
      · simp [readString?, readString, closing, quote]

/-- A letter or an underscore leads to a keyword, or else to an identifier. -/
theorem readKeyword?_or_readIdentifier? {c : Char} {rest : List Char}
    (start : isIdentifierStart c = true) :
    (readKeyword? (c :: rest)).or (readIdentifier? (c :: rest)) =
      some (.ok (readWord (c :: rest))) := by
  rw [readKeyword?, readIdentifier?, if_pos start, readWord]
  cases Keyword.ofSpelling? (String.ofList ((c :: rest).takeWhile isWordCharacter)) <;> rfl

/-! ### The choice -/

/-- The patterns one after the other. -/
theorem readToken_eq_or {c : Char} {rest : List Char} :
    readToken (c :: rest) =
      ((readKeyword? (c :: rest)).or ((readSymbol? (c :: rest)).or ((readInteger? (c :: rest)).or
        ((readString? (c :: rest)).or (readIdentifier? (c :: rest)))))).getD
          (unexpectedToken (c :: rest)) := by
  rw [readToken, if_neg (List.cons_ne_nil _ _)]
  simp only [patterns, List.findSome?_cons, List.findSome?_nil]
  cases readKeyword? (c :: rest) <;> cases readSymbol? (c :: rest) <;>
    cases readInteger? (c :: rest) <;> cases readString? (c :: rest) <;>
    cases readIdentifier? (c :: rest) <;> rfl

/-- **A token is chosen by its first character.** -/
theorem readToken_cons (c : Char) (rest : List Char) :
    readToken (c :: rest) =
      if symbols.toList.contains c then .ok (.symbol c, rest)
      else if c.isDigit then readInteger (c :: rest)
      else if c == '"' then readString rest
      else if isIdentifierStart c then .ok (readWord (c :: rest))
      else unexpectedToken (c :: rest) := by
  rw [readToken_eq_or, readSymbol?]
  by_cases symbol : symbols.toList.contains c = true
  · rw [if_pos symbol, if_pos symbol, readKeyword?_eq_none (symbol_not_digit symbol).2.2]
    rfl
  rw [if_neg symbol, if_neg symbol, Option.none_or]
  by_cases digit : c.isDigit = true
  · rw [if_pos digit, readKeyword?_eq_none (digit_not_alpha digit), readInteger?_eq_some digit]
    rfl
  rw [if_neg digit, readInteger?_eq_none (Bool.eq_false_iff.2 digit), Option.none_or]
  by_cases quote : c = '"'
  · subst quote
    rw [if_pos (beq_self_eq_true _), readKeyword?_eq_none (by decide), Option.none_or,
      readIdentifier?, if_neg (by decide), Option.or_none, getD_readString?]
  rw [if_neg (by simpa using quote), readString?_eq_none quote, Option.none_or]
  by_cases start : isIdentifierStart c = true
  · rw [if_pos start, readKeyword?_or_readIdentifier? start]
    rfl
  · have noLetter : c.isAlpha = false := by
      simp only [isIdentifierStart, Bool.or_eq_true, not_or, Bool.not_eq_true] at start
      exact start.1
    rw [if_neg start, readKeyword?_eq_none noLetter, readIdentifier?, if_neg start]
    rfl

/-- What a token is read as is decided by the first character of the text. -/
theorem readToken_cases (text : List Char) :
    text = [] ∧ readToken text = .error .endOfInput ∨
      ∃ c rest, text = c :: rest ∧
        (symbols.toList.contains c = true ∧ readToken text = .ok (.symbol c, rest) ∨
          c.isDigit = true ∧ readToken text = readInteger text ∨
          c = '"' ∧ readToken text = readString rest ∨
          isIdentifierStart c = true ∧ readToken text = .ok (readWord text) ∨
          readToken text = unexpectedToken text) := by
  cases text with
  | nil => exact Or.inl ⟨rfl, rfl⟩
  | cons c rest =>
      refine Or.inr ⟨c, rest, rfl, ?_⟩
      rw [readToken_cons]
      split_ifs with symbol digit quote start
      · exact Or.inl ⟨symbol, rfl⟩
      · exact Or.inr (Or.inl ⟨digit, rfl⟩)
      · exact Or.inr (Or.inr (Or.inl ⟨beq_iff_eq.1 quote, rfl⟩))
      · exact Or.inr (Or.inr (Or.inr (Or.inl ⟨start, rfl⟩)))
      · exact Or.inr (Or.inr (Or.inr (Or.inr rfl)))

end JackSyntax
