/-
**Tokens and how they are written.**

Every token of a source can be written down again: a string constant between quotes, any other token
as its lexeme.  Only an integer constant can be written in more than one way, because zeros may
stand before it.  In whatever way a token is written, it is read back if white space or nothing
follows it.

Main definitions:

* `Token.IsLexical` — a token that can stand in a source;
* `Token.written` — a token as it stands in a source;
* `Token.IsSpelledAs` — all the ways to write a token;
* `joined` — tokens as they stand in a source, a blank between them.

Main results:

* `PlainScanner.isLexical_of_tokensFrom` — the tokens of a source can stand in one;
* `PlainScanner.tokensFrom_spelled` — a token is read back from any of its spellings;
* `PlainScanner.tokensFrom_joined` — **tokens that are written down are read back**.
-/

import JackSyntax.Proofs.Lexing.PlainScanner

set_option relaxedAutoImplicit false
set_option autoImplicit false

namespace JackSyntax

/-! ### Tokens of a source -/

/-- A word begins with a letter or an underscore and goes on with these and with digits. -/
def IsWord (text : List Char) : Prop :=
  (∃ c ∈ text.head?, isIdentifierStart c = true) ∧ ∀ c ∈ text, isIdentifierPart c = true

namespace Token

/-- A token can stand in a source. -/
def IsLexical : Token → Prop
  | .symbol character => character ∈ symbols.toList
  | .stringConstant text => ∀ c ∈ text.toList, isStringPart c = true
  | .identifier name => IsWord name.toList ∧ Keyword.ofSpelling? name = none
  | _ => True

/-- A token as it stands in a source. -/
def written (token : Token) : List Char :=
  if token.tag = "stringConstant" then '"' :: (token.lexeme.toList ++ ['"'])
  else token.lexeme.toList

end Token

/-- The ways to write a token: any run of digits that denotes the value of an integer constant, and
for any other token the one way that there is. -/
def Token.IsSpelledAs : Token → List Char → Prop
  | .integerConstant value, text =>
      text ≠ [] ∧ (∀ c ∈ text, c.isDigit = true) ∧ Nat.ofDigitChars 10 text 0 = value.toNat
  | token, text => text = token.written

/-- Tokens as they stand in a source, a blank between them. -/
def joined (tokens : List Token) : List Char := [' '].intercalate (tokens.map Token.written)

/-- A text goes on with white space, if it goes on at all. -/
def IsSpaced (text : List Char) : Prop := ∀ c ∈ text.head?, isWhiteSpace c = true

theorem isSpaced_nil : IsSpaced [] := by simp [IsSpaced]

theorem isSpaced_cons {c : Char} {text : List Char} :
    IsSpaced (c :: text) ↔ isWhiteSpace c = true := by
  simp [IsSpaced]

/-- No word goes on in white space. -/
theorem IsSpaced.stops {text : List Char} (spaced : IsSpaced text) :
    Stops isIdentifierPart text := by
  intro c ahead
  refine Bool.eq_false_iff.2 fun part => ?_
  have dark := not_isWhiteSpace_of_isIdentifierPart part
  rw [spaced c ahead] at dark
  cases dark

/-- No number goes on in white space. -/
theorem IsSpaced.stops_isDigit {text : List Char} (spaced : IsSpaced text) :
    Stops Char.isDigit text := by
  intro c ahead
  refine Bool.eq_false_iff.2 fun digit => ?_
  have refused := spaced.stops c ahead
  rw [isIdentifierPart_of_isDigit digit] at refused
  cases refused

theorem IsWord.ne_nil {text : List Char} (word : IsWord text) : text ≠ [] := by
  rintro rfl
  obtain ⟨⟨c, first, -⟩, -⟩ := word
  cases first

theorem isWord_spelling (word : Keyword) : IsWord word.spelling.toList := by
  have parts : word.spelling.toList.all isIdentifierPart = true := by cases word <;> decide
  refine ⟨?_, List.all_eq_true.1 parts⟩
  cases word <;> exact ⟨_, rfl, rfl⟩

/-- A numeral consists of digits and denotes the number it is the numeral of. -/
theorem numeral_digits (n : Nat) :
    (toString n).toList ≠ [] ∧ (∀ c ∈ (toString n).toList, c.isDigit = true) ∧
      Nat.ofDigitChars 10 (toString n).toList 0 = n := by
  rw [Nat.toString_eq_repr, Nat.toList_repr]
  refine ⟨Nat.toDigits_ne_nil, ?_, Nat.ofDigitChars_ten_toDigits⟩
  intro c inside
  exact Nat.isDigit_of_mem_toDigits (by decide) (by decide) inside

namespace Token

/-- A token is written with the characters of identifiers alone. -/
def isPlain : Token → Bool
  | .symbol _ => false
  | .stringConstant _ => false
  | _ => true

theorem isIdentifierPart_of_mem_lexeme {token : Token} (lexical : token.IsLexical)
    (plain : token.isPlain = true) : ∀ c ∈ token.lexeme.toList, isIdentifierPart c = true := by
  intro c inside
  cases token with
  | keyword word => exact (isWord_spelling word).2 c inside
  | integerConstant value =>
      exact isIdentifierPart_of_isDigit ((numeral_digits value.toNat).2.1 c inside)
  | identifier name => exact lexical.1.2 c inside
  | symbol | stringConstant => cases plain

/-- A token can be written as its lexeme, or in quotes if it is a string constant. -/
theorem isSpelledAs_written (token : Token) : token.IsSpelledAs token.written := by
  cases token with
  | integerConstant value => exact numeral_digits value.toNat
  | keyword | symbol | stringConstant | identifier => rfl

theorem isSpelledAs_symbol {c : Char} {text : List Char} :
    (symbol c).IsSpelledAs text ↔ text = [c] := by
  have single : (symbol c).written = [c] := by simp [written, tag, lexeme]
  rw [IsSpelledAs, single]
  rintro value ⟨⟩

/-- Zeros before a numeral change nothing. -/
theorem isSpelledAs_zeros (zeros : Nat) (value : UInt16) :
    (integerConstant value).IsSpelledAs
      (List.replicate zeros '0' ++ (toString value.toNat).toList) := by
  obtain ⟨some, digits, denoted⟩ := numeral_digits value.toNat
  refine ⟨List.append_ne_nil_of_right_ne_nil _ some, ?_, ?_⟩
  · intro c inside
    rcases List.mem_append.1 inside with zero | digit
    · rw [List.eq_of_mem_replicate zero]
      rfl
    · exact digits c digit
  · induction zeros with
    | zero => exact denoted
    | succ zeros ih => exact ih

end Token

namespace PlainScanner

theorem isLexical_wordToken {word : List Char} (h : IsWord word) :
    (wordToken (String.ofList word)).IsLexical := by
  unfold wordToken
  split
  · trivial
  · rename_i none
    exact ⟨by simpa using h, none⟩

/-- The tokens that are taken off a text can stand in a source. -/
theorem isLexical_of_munch {text rest : List Char} {token : Token}
    (h : munch text = .ok (token, rest)) : token.IsLexical := by
  obtain ⟨c, tail, rfl, ⟨start, rfl, -⟩ | ⟨-, ⟨value, rfl⟩, -⟩ | ⟨listed, rfl, -⟩ |
    ⟨closed, rfl, -⟩⟩ := munch_cases h
  · refine isLexical_wordToken ⟨⟨c, ?_, start⟩, fun d inside => List.mem_takeWhile_imp inside⟩
    rw [List.takeWhile_cons_of_pos (isIdentifierPart_of_start start)]
    rfl
  · trivial
  · exact listed
  · obtain ⟨rest', behind⟩ := (quote_mem_takeWhile_iff tail).1 closed
    simp only [Token.IsLexical, String.toList_ofList, ← (takeWhile_isStringPart behind).1]
    exact fun d inside => List.mem_takeWhile_imp inside

/-- The tokens of a source can stand in one. -/
theorem isLexical_of_tokensFrom {source remaining : List Char} {tokens : List Token}
    (h : tokensFrom source remaining = .ok tokens) : ∀ token ∈ tokens, token.IsLexical := by
  fun_induction tokensFrom source remaining generalizing tokens with
  | case1 =>
      obtain rfl := Except.ok.inj h
      simp
  | case2 remaining some token rest munched ih =>
      cases later : tokensFrom source rest with
      | error fault =>
          rw [later] at h
          cases h
      | ok others =>
          rw [later] at h
          obtain rfl := Except.ok.inj h
          exact List.forall_mem_cons.2 ⟨isLexical_of_munch munched, ih later⟩
  | case3 => cases h

/-! ### Reading a token back -/

theorem munch_word {word rest : List Char} (h : IsWord word)
    (stops : Stops isIdentifierPart rest) :
    munch (word ++ rest) = .ok (wordToken (String.ofList word), rest) := by
  obtain ⟨⟨c, first, start⟩, parts⟩ := h
  obtain ⟨taken, dropped⟩ := takeWhile_append_of_stops parts stops
  obtain ⟨others, rfl⟩ := List.head?_eq_some_iff.1 first
  rw [List.cons_append] at taken dropped ⊢
  rw [munch, if_pos start, taken, dropped]

theorem munch_symbol {c : Char} (listed : c ∈ symbols.toList) (rest : List Char) :
    munch (c :: rest) = .ok (.symbol c, rest) := by
  have noPart : ¬isIdentifierPart c = true := by
    intro part
    exact (not_symbol_of_isIdentifierPart part).1 listed
  rw [munch, if_neg (fun start => noPart (isIdentifierPart_of_start start)),
    if_neg (fun digit => noPart (isIdentifierPart_of_isDigit digit)), if_pos listed]

theorem munch_integer {value : UInt16} {text rest : List Char}
    (spelled : (Token.integerConstant value).IsSpelledAs text) (stops : Stops Char.isDigit rest) :
    munch (text ++ rest) = .ok (.integerConstant value, rest) := by
  obtain ⟨some, digits, denoted⟩ := spelled
  obtain ⟨taken, dropped⟩ := takeWhile_append_of_stops digits stops
  obtain ⟨c, others, rfl⟩ := List.exists_cons_of_ne_nil some
  have digit : c.isDigit = true := digits c List.mem_cons_self
  have noStart : ¬isIdentifierStart c = true := by
    intro start
    rw [not_isDigit_of_isIdentifierStart start] at digit
    cases digit
  have small : value.toNat ≤ 65535 := Nat.le_of_lt_succ value.toNat_lt
  rw [List.cons_append] at taken dropped ⊢
  rw [munch, if_neg noStart, if_pos digit]
  simp only [taken, dropped, denoted, dif_pos small, UInt16.ofNatLT_toNat]

theorem munch_string {text : List Char} (parts : ∀ c ∈ text, isStringPart c = true)
    (rest : List Char) :
    munch ('"' :: (text ++ '"' :: rest)) = .ok (.stringConstant (String.ofList text), rest) := by
  obtain ⟨taken, dropped⟩ := takeWhile_append_of_stops parts
    (stops_cons.2 rfl : Stops isStringPart ('"' :: rest))
  have closed := (quote_mem_takeWhile_iff (text ++ '"' :: rest)).2 ⟨rest, dropped⟩
  obtain ⟨taken', dropped'⟩ := takeWhile_isStringPart dropped
  rw [munch, if_neg (by decide), if_neg (by decide), if_neg (by decide), if_pos ⟨rfl, closed⟩,
    ← taken', taken, dropped', List.tail_cons]

/-- A token is read back from any of its spellings, if white space or nothing follows. -/
theorem munch_spelled {token : Token} {text rest : List Char} (lexical : token.IsLexical)
    (spelled : token.IsSpelledAs text) (spaced : IsSpaced rest) :
    munch (text ++ rest) = .ok (token, rest) := by
  cases token with
  | keyword word =>
      obtain rfl : text = word.spelling.toList := spelled
      have read := munch_word (isWord_spelling word) spaced.stops
      rwa [String.ofList_toList, wordToken, Keyword.ofSpelling?_spelling] at read
  | symbol c =>
      obtain rfl : text = [c] := Token.isSpelledAs_symbol.1 spelled
      exact munch_symbol lexical rest
  | integerConstant value => exact munch_integer spelled spaced.stops_isDigit
  | stringConstant content =>
      obtain rfl : text = '"' :: (content.toList ++ ['"']) := spelled
      have read := munch_string lexical rest
      rw [String.ofList_toList] at read
      simpa using read
  | identifier name =>
      obtain rfl : text = name.toList := spelled
      have read := munch_word lexical.1 spaced.stops
      rwa [String.ofList_toList, wordToken, lexical.2] at read

/-- Nothing is dropped before a character of an identifier. -/
theorem skip_of_isIdentifierPart {text : List Char} (rest : List Char) (some : text ≠ [])
    (parts : ∀ c ∈ text, isIdentifierPart c = true) : skip (text ++ rest) = text ++ rest := by
  obtain ⟨c, others, rfl⟩ := List.exists_cons_of_ne_nil some
  have part := parts c List.mem_cons_self
  exact skip_of_none (dropOne?_eq_none (not_isWhiteSpace_of_isIdentifierPart part) fun slash =>
    absurd part (slash ▸ by decide))

/-- Nothing is dropped before a token. -/
theorem skip_spelled {token : Token} {text rest : List Char} (lexical : token.IsLexical)
    (spelled : token.IsSpelledAs text) (spaced : IsSpaced rest) :
    skip (text ++ rest) = text ++ rest := by
  cases token with
  | keyword word =>
      obtain rfl : text = word.spelling.toList := spelled
      have word := isWord_spelling word
      exact skip_of_isIdentifierPart rest word.ne_nil word.2
  | symbol c =>
      -- a slash begins no comment, because white space or nothing stands behind it
      obtain rfl : text = [c] := Token.isSpelledAs_symbol.1 spelled
      obtain ⟨-, dark, -⟩ := not_isWordCharacter_of_symbol lexical
      refine skip_of_none (dropOne?_eq_none dark fun _ d ahead => ?_)
      have blank := spaced d ahead
      constructor
      · rintro rfl
        exact absurd blank (by decide)
      · rintro rfl
        exact absurd blank (by decide)
  | integerConstant value =>
      exact skip_of_isIdentifierPart rest spelled.1 fun c inside =>
        isIdentifierPart_of_isDigit (spelled.2.1 c inside)
  | stringConstant content =>
      obtain rfl : text = '"' :: (content.toList ++ ['"']) := spelled
      exact skip_of_none (dropOne?_eq_none (by decide) fun slash => absurd slash (by decide))
  | identifier name =>
      obtain rfl : text = name.toList := spelled
      exact skip_of_isIdentifierPart rest lexical.1.ne_nil lexical.1.2

/-! ### Reading all tokens back -/

/-- The tokens of a text are those that the plain scanner takes off it. -/
theorem tokenize_ofList (text : List Char) :
    tokenize (String.ofList text) = tokensFrom text text := by
  rw [tokenize, scan, Cursor.ofSource, String.toList_ofList]
  exact result_scanFrom text text 1 rfl

theorem tokensFrom_congr (source : List Char) {first second : List Char}
    (h : skip first = skip second) : tokensFrom source first = tokensFrom source second := by
  rw [tokensFrom, h, ← tokensFrom]

/-- A spelled token is the first one of the text that it stands before. -/
theorem tokensFrom_spelled (source : List Char) {token : Token} {text rest : List Char}
    (lexical : token.IsLexical) (spelled : token.IsSpelledAs text) (spaced : IsSpaced rest) :
    tokensFrom source (text ++ rest) = (tokensFrom source rest).map (token :: ·) := by
  have read := munch_spelled lexical spelled spaced
  rw [← skip_spelled lexical spelled spaced] at read
  exact tokensFrom_of_ok read

/-- Tokens that are written down are read back. -/
theorem tokensFrom_joined (source : List Char) {tokens : List Token}
    (lexical : ∀ token ∈ tokens, token.IsLexical) :
    tokensFrom source (joined tokens) = .ok tokens := by
  induction tokens with
  | nil => exact tokensFrom_of_nil (skip_of_none rfl)
  | cons token tokens ih =>
      obtain ⟨here, later⟩ := List.forall_mem_cons.1 lexical
      cases tokens with
      | nil =>
          have read := tokensFrom_spelled source here token.isSpelledAs_written isSpaced_nil
          rw [tokensFrom_of_nil (skip_of_none rfl), List.append_nil] at read
          rw [joined, List.map_singleton, List.intercalate_singleton, read]
          rfl
      | cons next tokens =>
          have spaced : IsSpaced (' ' :: joined (next :: tokens)) := isSpaced_cons.2 (by decide)
          have read := tokensFrom_spelled source here token.isSpelledAs_written spaced
          have behind : tokensFrom source (' ' :: joined (next :: tokens)) = .ok (next :: tokens) :=
            (tokensFrom_congr source (skip_of_some rfl)).trans (ih later)
          have split : joined (token :: next :: tokens) =
              token.written ++ ' ' :: joined (next :: tokens) := by
            simp [joined, List.intercalate_cons_cons]
          rw [split, read, behind]
          rfl

end PlainScanner

end JackSyntax
