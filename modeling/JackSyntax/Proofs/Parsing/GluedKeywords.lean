/-
**Keywords that pass for identifiers.**

A word is compared with the keywords as a whole, and a word goes on with letters of every alphabet.
An identifier is cut out of a word and ends with its last ASCII character.  So where a foreign
letter is glued to a keyword, the word is no keyword, and yet the identifier that is cut out of it
is spelled like one.  This is the only way in which a keyword can pass for an identifier.  It is
then the last token of its source, because the foreign letter begins none; but it is a token, and a
diagnostic may show it.

Main definitions:

* `IsGlued` — a foreign letter is glued to a keyword where a token begins.

Main results:

* `mem_lexedTokens_iff` — the tokens of a source are those that its cursors yield;
* `readToken_eq_identifier` — where an identifier is read, and when it is spelled like a keyword;
* `IsGlued.tokenize_eq_error` — a glued keyword is the last token, and no source is read with one;
* `identifier_spelled_like_keyword_iff_glued` — **an identifier is spelled like a keyword exactly
  where a foreign letter is glued to the keyword**.
-/

import JackSyntax.Proofs.Parsing.LineNumbers
import JackSyntax.Proofs.Parsing.TokensOnly

set_option relaxedAutoImplicit false
set_option autoImplicit false

namespace JackSyntax

/-- In a source, a token begins with a keyword to which a foreign letter is glued: a word character
that no identifier may hold. -/
def IsGlued (source : String) (keyword : Keyword) : Prop :=
  ∃ tokens c letter rest, Reached source tokens c ∧
    c.rest = keyword.spelling.toList ++ letter :: rest ∧
    isWordCharacter letter = true ∧ isIdentifierPart letter = false

/-! ### Identifiers at the head of a text -/

/-- A letter or an underscore begins a word. -/
theorem readToken_of_start {c : Char} (start : isIdentifierStart c = true) (text : List Char) :
    readToken (c :: text) = .ok (readWord (c :: text)) := by
  have part := isIdentifierPart_of_start start
  obtain ⟨noSymbol, noQuote⟩ := not_symbol_of_isIdentifierPart part
  have noDigit := not_isDigit_of_isIdentifierStart start
  simp [readToken_cons, noSymbol, noDigit, noQuote, start]

/-- An identifier is read only where a word begins. -/
theorem readWord_of_identifier {text rest : List Char} {name : String}
    (h : readToken text = .ok (.identifier name, rest)) :
    (∃ c ∈ text.head?, isIdentifierStart c = true) ∧ readWord text = (.identifier name, rest) := by
  rcases readToken_cases text with ⟨rfl, answer⟩ | ⟨c, text, rfl, ⟨-, answer⟩ | ⟨-, answer⟩ |
    ⟨rfl, answer⟩ | ⟨start, answer⟩ | answer⟩ <;> rw [answer] at h
  · cases h
  · cases h
  · rw [readInteger] at h
    split at h <;> cases h
  · rw [readString] at h
    split at h <;> cases h
  · exact ⟨⟨c, rfl, start⟩, Except.ok.inj h⟩
  · cases h

/-- An identifier is the longest run of identifier characters.  If it is spelled like a keyword, a
foreign letter follows it. -/
theorem readToken_eq_identifier {text rest : List Char} {name : String}
    (h : readToken text = .ok (.identifier name, rest)) :
    IsWord name.toList ∧ text = name.toList ++ rest ∧
      ((Keyword.ofSpelling? name).isSome = true → ∃ letter behind, rest = letter :: behind ∧
        isWordCharacter letter = true ∧ isIdentifierPart letter = false) := by
  obtain ⟨⟨c, first, start⟩, word⟩ := readWord_of_identifier h
  have part := isIdentifierPart_of_start start
  have run : IsWord (text.takeWhile isIdentifierPart) := by
    refine ⟨⟨c, ?_, start⟩, fun d => List.mem_takeWhile_imp⟩
    obtain ⟨behind, rfl⟩ : ∃ behind, text = c :: behind := ⟨_, List.eq_cons_of_mem_head? first⟩
    rw [List.takeWhile_cons_of_pos part]
    rfl
  rcases PlainScanner.readWord_eq_or text with same | ⟨same, d, behind, ahead, foreign⟩
  · -- the run of identifier characters is a word of its own, and no keyword
    rw [same, PlainScanner.wordToken, Prod.mk.injEq] at word
    obtain ⟨token, rfl⟩ := word
    split at token
    · cases token
    · rename_i none
      obtain rfl := Token.identifier.inj token
      rw [String.toList_ofList]
      refine ⟨run, List.takeWhile_append_dropWhile.symm, fun some => ?_⟩
      rw [none] at some
      cases some
  · rw [same, Prod.mk.injEq] at word
    obtain ⟨token, rfl⟩ := word
    obtain rfl := Token.identifier.inj token
    rw [String.toList_ofList]
    exact ⟨run, List.takeWhile_append_dropWhile.symm, fun _ => ⟨d, behind, ahead, foreign⟩⟩

/-- A keyword with a foreign letter behind it is read as an identifier. -/
theorem readToken_glued (keyword : Keyword) {letter : Char} (rest : List Char)
    (word : isWordCharacter letter = true) (foreign : isIdentifierPart letter = false) :
    readToken (keyword.spelling.toList ++ letter :: rest) =
      .ok (.identifier keyword.spelling, letter :: rest) := by
  obtain ⟨⟨c, first, start⟩, parts⟩ := isWord_spelling keyword
  obtain ⟨behind, spelled⟩ : ∃ behind, keyword.spelling.toList = c :: behind :=
    ⟨_, List.eq_cons_of_mem_head? first⟩
  have whole : readToken (keyword.spelling.toList ++ letter :: rest) =
      .ok (readWord (keyword.spelling.toList ++ letter :: rest)) := by
    rw [spelled, List.cons_append, readToken_of_start start]
  -- the word holds the foreign letter, so it is no keyword; the identifier stops before it
  have inside : letter ∈
      (keyword.spelling.toList ++ letter :: rest).takeWhile isWordCharacter := by
    rw [List.takeWhile_append_of_pos fun d mem => isWordCharacter_of_isIdentifierPart (parts d mem),
      List.takeWhile_cons_of_pos word]
    simp
  obtain ⟨taken, dropped⟩ :=
    takeWhile_append_of_stops parts (stops_cons.2 foreign : Stops _ (letter :: rest))
  rw [whole, readWord, ofSpelling?_of_foreign inside foreign, taken, dropped, String.ofList_toList]

/-! ### The tokens of a source -/

/-- The tokens of a source are those that its cursors yield. -/
theorem mem_lexedTokens_iff {source : String} {token : Token} :
    token ∈ lexedTokens source ↔
      ∃ tokens c c', Reached source tokens c ∧ c.next? = (some (.ok token), c') := by
  constructor
  · intro inside
    obtain ⟨located, listed, rfl⟩ := List.mem_map.1 inside
    obtain ⟨passed, rest, split⟩ := List.append_of_mem listed
    have whole : scan source = Scan.prepend passed ⟨located :: rest, (scan source).ending⟩ := by
      rw [Scan.prepend, ← split]
    obtain ⟨c, reached, ahead⟩ := exists_reached whole
    obtain ⟨c', step⟩ := Cursor.next?_of_lookahead
      (show (c.scanFrom []).lookahead = some located.item by rw [ahead]; rfl)
    exact ⟨_, c, c', reached, step⟩
  · rintro ⟨tokens, c, c', reached, step⟩
    obtain ⟨passed, same, whole⟩ := (reached.next step).scan_eq
    rw [lexedTokens, whole, Scan.tokens_prepend, List.map_append, same]
    simp

/-- A glued keyword is the last token of its source: behind it stands what begins no token. -/
theorem IsGlued.tokenize_eq_error {source : String} {keyword : Keyword}
    (h : IsGlued source keyword) :
    (∃ before, lexedTokens source = before ++ [.identifier keyword.spelling]) ∧
      ∃ line fragment, tokenize source = .error ⟨line, .unexpectedToken fragment⟩ := by
  obtain ⟨tokens, c, letter, rest, reached, ahead, word, foreign⟩ := h
  obtain ⟨noTrivia, unread, -⟩ := PlainScanner.foreign_begins_nothing rest word foreign
  have stays := PlainScanner.skipTrivia_of_skip c.line (PlainScanner.skip_of_none noTrivia)
  have step : c.next? = (some (.ok (.identifier keyword.spelling)), ⟨letter :: rest, c.line⟩) :=
    Cursor.next?_eq_ok_iff.2
      ⟨_, by rw [ahead]; exact readToken_glued keyword rest word foreign, stays⟩
  obtain ⟨passed, same, whole⟩ := (reached.next step).scan_eq
  rw [Cursor.scanFrom_of_error (by simp) unread] at whole
  refine ⟨⟨tokens, ?_⟩, _, _, (tokenize_eq_error_iff ..).2 (by rw [whole]; rfl)⟩
  rw [lexedTokens, whole, Scan.tokens_prepend, ← same]
  simp

/-- **An identifier is spelled like a keyword exactly where a foreign letter is glued to the
keyword.**

* Every identifier that is yielded, whatever follows it, is a word of ASCII characters.
* One that is spelled like a keyword is yielded exactly if a token of the source begins with the
  keyword and a foreign letter is glued to it.
* It is then the last token of the source, and the letter is an error.  So no identifier of a source
  that can be read to its end is spelled like a keyword.
* A diagnostic shows such an identifier only if a keyword is glued. -/
theorem identifier_spelled_like_keyword_iff_glued (source : String) :
    (∀ name, .identifier name ∈ lexedTokens source → IsWord name.toList) ∧
    (∀ keyword : Keyword,
      .identifier keyword.spelling ∈ lexedTokens source ↔ IsGlued source keyword) ∧
    (∀ keyword, IsGlued source keyword →
      (∃ before, lexedTokens source = before ++ [.identifier keyword.spelling]) ∧
        ∃ line fragment, tokenize source = .error ⟨line, .unexpectedToken fragment⟩) ∧
    (∀ tokens, tokenize source = .ok tokens →
      ∀ name, .identifier name ∈ tokens → Keyword.ofSpelling? name = none) ∧
    (∀ line expected (keyword : Keyword), parse source =
        .error ⟨line, .unexpected expected (some (.identifier keyword.spelling))⟩ →
      IsGlued source keyword) := by
  have glued (keyword : Keyword) (inside : .identifier keyword.spelling ∈ lexedTokens source) :
      IsGlued source keyword := by
    obtain ⟨tokens, c, c', reached, step⟩ := mem_lexedTokens_iff.1 inside
    obtain ⟨rest, read, -⟩ := Cursor.next?_eq_ok_iff.1 step
    obtain ⟨-, split, foreign⟩ := readToken_eq_identifier read
    obtain ⟨letter, behind, rfl, letters⟩ := foreign (by simp)
    exact ⟨tokens, c, letter, behind, reached, split, letters⟩
  refine ⟨?words, fun keyword => ⟨glued keyword, ?yielded⟩,
    fun keyword => IsGlued.tokenize_eq_error, ?complete, ?shown⟩
  case words =>
    intro name inside
    obtain ⟨tokens, c, c', -, step⟩ := mem_lexedTokens_iff.1 inside
    obtain ⟨rest, read, -⟩ := Cursor.next?_eq_ok_iff.1 step
    exact (readToken_eq_identifier read).1
  case yielded =>
    intro h
    obtain ⟨⟨before, last⟩, -⟩ := h.tokenize_eq_error
    rw [last]
    simp
  case complete =>
    intro tokens read name inside
    cases spelled : Keyword.ofSpelling? name with
    | none => rfl
    | some keyword =>
        obtain rfl := Keyword.spelling_of_ofSpelling? spelled
        obtain ⟨-, rfl⟩ := (tokenize_eq_ok_iff ..).1 read
        obtain ⟨-, line, fragment, failed⟩ := (glued keyword inside).tokenize_eq_error
        rw [failed] at read
        cases read
  case shown =>
    intro line expected keyword failed
    obtain ⟨⟨fault, ahead⟩, answer, same⟩ := (parse_eq_error_iff ..).1 failed
    cases same
    obtain ⟨tokens, c, reached, rfl⟩ := Scan.readClass_error_reached answer
    obtain ⟨c', step⟩ := Cursor.next?_of_lookahead (Scan.readClass_found answer).symm
    exact glued keyword (mem_lexedTokens_iff.2 ⟨tokens, c, c', reached, step⟩)

/-- A keyword behind a name and one at the beginning, both with an accent behind them; and a name
that only begins like a keyword. -/
theorem keywords_with_and_without_accents :
    (.identifier "class" ∈ lexedTokens "x class\u00e9" ∧ IsGlued "x class\u00e9" .«class» ∧
      ∃ line fragment, tokenize "x class\u00e9" = .error ⟨line, .unexpectedToken fragment⟩) ∧
    (parse "class\u00e9" =
        .error ⟨1, .unexpected (.keyword .«class») (some (.identifier "class"))⟩ ∧
      IsGlued "class\u00e9" .«class») ∧
    (tokenize "class classy" = .ok [.keyword .«class», .identifier "classy"] ∧
      IsWord "classy".toList ∧ Keyword.ofSpelling? "classy" = none) := by
  have yielded : .identifier "class" ∈ lexedTokens "x class\u00e9" := by decide +kernel
  have shown : parse "class\u00e9" =
      .error ⟨1, .unexpected (.keyword .«class») (some (.identifier "class"))⟩ := by decide +kernel
  have whole : tokenize "class classy" = .ok [.keyword .«class», .identifier "classy"] := by
    decide +kernel
  refine ⟨⟨yielded, ?_⟩, ⟨shown, ?_⟩, whole, ?_⟩
  · obtain ⟨-, glued, last, -⟩ := identifier_spelled_like_keyword_iff_glued "x class\u00e9"
    have accent := (glued .«class»).1 yielded
    exact ⟨accent, (last _ accent).2⟩
  · exact (identifier_spelled_like_keyword_iff_glued "class\u00e9").2.2.2.2 _ _ .«class» shown
  · obtain ⟨words, -, -, complete, -⟩ := identifier_spelled_like_keyword_iff_glued "class classy"
    exact ⟨words "classy" (by decide +kernel), complete _ whole "classy" (by simp)⟩

/-- With an accent behind it, the first word of a class passes for an identifier and is reported as
one. -/
theorem glued_class_is_identifier :
    (¬ ∀ source name, .identifier name ∈ lexedTokens source → Keyword.ofSpelling? name = none) ∧
      ¬ ∀ source line expected (keyword : Keyword), parse source ≠
        .error ⟨line, .unexpected expected (some (.identifier keyword.spelling))⟩ := by
  refine ⟨fun never => ?_, fun never => ?_⟩
  · have yielded : .identifier "class" ∈ lexedTokens "class\u00e9" := by decide +kernel
    exact absurd (never _ _ yielded) (by decide)
  · have shown : parse "class\u00e9" = .error ⟨1, .unexpected (.keyword .«class»)
        (some (.identifier Keyword.«class».spelling))⟩ := by decide +kernel
    exact never _ _ _ _ shown

end JackSyntax
