/-
**A plain scanner.**

A source is scanned by comparing whole words with the keywords, by cutting an identifier out of a
word that is none, and by carrying a cursor along.  Here is a scanner that does nothing of that: it
drops white space and comments, takes the longest token its next character can begin, and starts
again.  The two give the same tokens or the same error for every source.

A keyword that is glued to a foreign letter is where they part for a moment: one scanner takes it
for an identifier, the other for a keyword, but the letter behind it begins no token and both end
there with the same error.

Main definitions:

* `PlainScanner.skip` — a text without the white space and the comments at its head;
* `PlainScanner.munch` — the longest token at the head of a text;
* `PlainScanner.tokens` — the tokens of a source, or its lexical error.

Main results:

* `PlainScanner.munch_cases` — what a token can be;
* `PlainScanner.readToken_eq_munch_or` — the two scanners agree on a token, or part at a glued
  keyword;
* `tokenize_eq_plainScanner` — **the two scanners agree on every source**.
-/

import JackSyntax.Proofs.Lexing.Scanning

set_option relaxedAutoImplicit false
set_option autoImplicit false

namespace JackSyntax

namespace PlainScanner

/-! ### The scanner -/

/-- What stands behind the first `*/` of a text, if there is one. -/
def behindClose? : List Char → Option (List Char)
  | '*' :: '/' :: rest => some rest
  | _ :: rest => behindClose? rest
  | [] => none

/-- A text without the white-space character or the comment at its head.  A comment that begins with
`//` leaves the line feed behind it; one that begins with `/*` has to be closed. -/
def dropOne? : List Char → Option (List Char)
  | '/' :: '/' :: rest => some (rest.dropWhile (· != '\n'))
  | '/' :: '*' :: rest => behindClose? rest
  | c :: rest => if isWhiteSpace c then some rest else none
  | [] => none

theorem behindClose?_length_lt {text rest : List Char} (h : behindClose? text = some rest) :
    rest.length < text.length := by
  fun_induction behindClose? text with
  | case1 rest' =>
      obtain rfl := Option.some.inj h
      simp only [List.length_cons]
      omega
  | case2 c rest' _ ih => exact Nat.lt_succ_of_lt (ih h)
  | case3 => cases h

theorem dropOne?_length_lt {text rest : List Char} (h : dropOne? text = some rest) :
    rest.length < text.length := by
  unfold dropOne? at h
  split at h
  · rename_i comment
    obtain rfl := Option.some.inj h
    have shorter := (List.dropWhile_sublist (· != '\n') (l := comment)).length_le
    simp only [List.length_cons]
    omega
  · have shorter := behindClose?_length_lt h
    simp only [List.length_cons]
    omega
  · split at h
    · obtain rfl := Option.some.inj h
      simp
    · cases h
  · cases h

/-- A text without any white space and comments at its head. -/
def skip (text : List Char) : List Char :=
  match _h : dropOne? text with
  | some rest => skip rest
  | none => text
termination_by text.length
decreasing_by exact dropOne?_length_lt _h

/-- A word is a keyword or an identifier. -/
def wordToken (word : String) : Token :=
  match Keyword.ofSpelling? word with
  | some keyword => .keyword keyword
  | none => .identifier word

/-- The longest token at the head of a text, and what follows it. -/
def munch : List Char → Except LexFault (Token × List Char)
  | [] => .error .endOfInput
  | c :: rest =>
      if isIdentifierStart c then
        .ok (wordToken (String.ofList ((c :: rest).takeWhile isIdentifierPart)),
          (c :: rest).dropWhile isIdentifierPart)
      else if c.isDigit then
        let digits := (c :: rest).takeWhile Char.isDigit
        if h : Nat.ofDigitChars 10 digits 0 ≤ 65535 then
          .ok (.integerConstant (.ofNatLT (Nat.ofDigitChars 10 digits 0) (Nat.lt_succ_of_le h)),
            (c :: rest).dropWhile Char.isDigit)
        else .error (.integerOutOfRange (String.ofList digits))
      else if c ∈ symbols.toList then .ok (.symbol c, rest)
      else if c = '"' ∧ '"' ∈ rest.takeWhile (· != '\n') then
        .ok (.stringConstant (String.ofList (rest.takeWhile (· != '"'))),
          (rest.dropWhile (· != '"')).tail)
      else
        .error (.unexpectedToken (String.ofList ((c :: rest).takeWhile fun d => !isWhiteSpace d)))

theorem skip_length_le (text : List Char) : (skip text).length ≤ text.length := by
  fun_induction skip text with
  | case1 text rest h ih => exact Nat.le_trans ih (Nat.le_of_lt (dropOne?_length_lt h))
  | case2 => exact Nat.le_refl _

/-- A token is a word, a number, a symbol or a string constant, as its first character says. -/
theorem munch_cases {text rest : List Char} {token : Token} (h : munch text = .ok (token, rest)) :
    ∃ c tail, text = c :: tail ∧
      (isIdentifierStart c = true ∧
          token = wordToken (String.ofList (text.takeWhile isIdentifierPart)) ∧
          rest = text.dropWhile isIdentifierPart ∨
        c.isDigit = true ∧ (∃ value, token = .integerConstant value) ∧
          rest = text.dropWhile Char.isDigit ∨
        c ∈ symbols.toList ∧ token = .symbol c ∧ rest = tail ∨
        '"' ∈ tail.takeWhile (· != '\n') ∧
          token = .stringConstant (String.ofList (tail.takeWhile (· != '"'))) ∧
          rest = (tail.dropWhile (· != '"')).tail) := by
  fun_cases munch text with
  | case1 => cases h
  | case2 c tail start =>
      rw [munch, if_pos start] at h
      obtain ⟨rfl, rfl⟩ := Prod.mk.inj (Except.ok.inj h)
      exact ⟨c, tail, rfl, Or.inl ⟨start, rfl, rfl⟩⟩
  | case3 c tail noStart digit digits fits =>
      rw [munch, if_neg noStart, if_pos digit, dif_pos fits] at h
      obtain ⟨rfl, rfl⟩ := Prod.mk.inj (Except.ok.inj h)
      exact ⟨c, tail, rfl, Or.inr (Or.inl ⟨digit, ⟨_, rfl⟩, rfl⟩)⟩
  | case4 c tail noStart digit digits large =>
      rw [munch, if_neg noStart, if_pos digit, dif_neg large] at h
      cases h
  | case5 c tail noStart noDigit listed =>
      rw [munch, if_neg noStart, if_neg noDigit, if_pos listed] at h
      obtain ⟨rfl, rfl⟩ := Prod.mk.inj (Except.ok.inj h)
      exact ⟨c, tail, rfl, Or.inr (Or.inr (Or.inl ⟨listed, rfl, rfl⟩))⟩
  | case6 c tail noStart noDigit noSymbol closed =>
      rw [munch, if_neg noStart, if_neg noDigit, if_neg noSymbol, if_pos closed] at h
      obtain ⟨rfl, rfl⟩ := Prod.mk.inj (Except.ok.inj h)
      exact ⟨c, tail, rfl, Or.inr (Or.inr (Or.inr ⟨closed.2, rfl, rfl⟩))⟩
  | case7 c tail noStart noDigit noSymbol unclosed =>
      rw [munch, if_neg noStart, if_neg noDigit, if_neg noSymbol, if_neg unclosed] at h
      cases h

theorem munch_length_lt {text rest : List Char} {token : Token}
    (h : munch text = .ok (token, rest)) : rest.length < text.length := by
  obtain ⟨c, tail, rfl, ⟨start, -, rfl⟩ | ⟨digit, -, rfl⟩ | ⟨-, -, rfl⟩ | ⟨-, -, rfl⟩⟩ :=
    munch_cases h
  · exact length_dropWhile_lt (isIdentifierPart_of_start start)
  · exact length_dropWhile_lt digit
  · exact Nat.lt_succ_self _
  · have shorter := (List.dropWhile_sublist (· != '"') (l := tail)).length_le
    simp only [List.length_tail, List.length_cons]
    omega

/-- The line on which what remains of a source begins: one more than the line feeds passed. -/
def lineOf (source remaining : List Char) : Nat := 1 + source.count '\n' - remaining.count '\n'

/-- The tokens of what remains of a source, or the error that cuts them off. -/
def tokensFrom (source remaining : List Char) : Except LexError (List Token) :=
  if (skip remaining).isEmpty then .ok []
  else
    match _h : munch (skip remaining) with
    | .ok (token, rest) => (tokensFrom source rest).map (token :: ·)
    | .error fault => .error ⟨lineOf source (skip remaining), fault⟩
termination_by remaining.length
decreasing_by exact Nat.lt_of_lt_of_le (munch_length_lt _h) (skip_length_le remaining)

/-- The tokens of a source, or its lexical error. -/
def tokens (source : String) : Except LexError (List Token) :=
  tokensFrom source.toList source.toList

/-! ### White space and comments -/

theorem skip_of_some {text rest : List Char} (h : dropOne? text = some rest) :
    skip text = skip rest := by
  rw [skip]
  split
  · rename_i rest' h'
    obtain rfl := Option.some.inj (h.symm.trans h')
    rfl
  · rename_i h'
    rw [h] at h'
    cases h'

theorem skip_of_none {text : List Char} (h : dropOne? text = none) : skip text = text := by
  rw [skip]
  split
  · rename_i h'
    rw [h] at h'
    cases h'
  · rfl

/-- Nothing is dropped where neither white space nor a comment begins. -/
theorem dropOne?_eq_none {c : Char} {text : List Char} (dark : isWhiteSpace c = false)
    (noComment : c = '/' → ∀ d ∈ text.head?, d ≠ '/' ∧ d ≠ '*') : dropOne? (c :: text) = none := by
  unfold dropOne?
  split
  · rename_i same
    obtain ⟨rfl, rfl⟩ := List.cons.inj same
    exact absurd rfl (noComment rfl '/' rfl).1
  · rename_i same
    obtain ⟨rfl, rfl⟩ := List.cons.inj same
    exact absurd rfl (noComment rfl '*' rfl).2
  · rename_i same
    obtain ⟨rfl, -⟩ := List.cons.inj same
    rw [dark]
    rfl
  · rfl

theorem map_splitAfterClose? (passed text : List Char) :
    (splitAfterClose? passed text).map Prod.snd = behindClose? text := by
  fun_induction splitAfterClose? passed text with
  | case1 passed rest => rfl
  | case2 passed c rest noClose ih =>
      rw [ih, behindClose?]
      exact noClose
  | case3 => rfl

/-- A white-space character is dropped, because it begins no comment. -/
theorem dropOne?_of_isWhiteSpace {c : Char} (blank : isWhiteSpace c = true) (text : List Char) :
    dropOne? (c :: text) = some text := by
  unfold dropOne?
  split
  · rename_i same
    obtain ⟨rfl, -⟩ := List.cons.inj same
    exact absurd blank (by decide)
  · rename_i same
    obtain ⟨rfl, -⟩ := List.cons.inj same
    exact absurd blank (by decide)
  · rename_i same
    obtain ⟨rfl, rfl⟩ := List.cons.inj same
    rw [if_pos blank]
  · rename_i impossible
    cases impossible

/-- A run of white space may be dropped at once. -/
theorem skip_dropWhile (text : List Char) : skip (text.dropWhile isWhiteSpace) = skip text := by
  induction text with
  | nil => rfl
  | cons c text ih =>
      by_cases blank : isWhiteSpace c = true
      · have dropped := skip_of_some (dropOne?_of_isWhiteSpace blank text)
        rw [List.dropWhile_cons_of_pos blank, ih, dropped]
      · rw [List.dropWhile_cons_of_neg blank]

/-- Trivia is what the plain scanner drops, in one or more steps. -/
theorem skip_of_splitTrivia? {text piece rest : List Char}
    (h : splitTrivia? text = some (piece, rest)) : skip text = skip rest := by
  unfold splitTrivia? at h
  split at h
  · obtain ⟨-, rfl⟩ := Prod.mk.inj (Option.some.inj h)
    exact skip_of_some rfl
  · rename_i comment
    refine skip_of_some ?_
    rw [dropOne?, ← map_splitAfterClose? ['*', '/'] comment, h]
    rfl
  · split at h
    · rename_i c run _ _ blank
      obtain ⟨-, rfl⟩ := Prod.mk.inj (Option.some.inj h)
      rw [← skip_dropWhile, List.dropWhile_cons_of_pos blank]
    · cases h
  · cases h

theorem dropOne?_of_splitTrivia? {text : List Char} (h : splitTrivia? text = none) :
    dropOne? text = none := by
  unfold splitTrivia? at h
  split at h
  · cases h
  · rename_i comment
    rw [dropOne?, ← map_splitAfterClose? ['*', '/'] comment, h]
    rfl
  · rename_i c rest noLine noBlock
    split at h
    · cases h
    · rename_i dark
      rw [dropOne?, if_neg dark]
      · exact noLine
      · exact noBlock
  · rfl

/-- Skipping trivia leaves what the plain scanner leaves. -/
theorem rest_skipTrivia (c : Cursor) : c.skipTrivia.rest = skip c.rest := by
  fun_induction Cursor.skipTrivia c with
  | case1 c piece rest h ih => rw [ih, skip_of_splitTrivia? h]
  | case2 c h => rw [skip_of_none (dropOne?_of_splitTrivia? h)]

/-- A cursor stays where the plain scanner drops nothing. -/
theorem skipTrivia_of_skip {text : List Char} (line : Nat) (h : skip text = text) :
    Cursor.skipTrivia ⟨text, line⟩ = ⟨text, line⟩ := by
  have counted := Cursor.line_skipTrivia ⟨text, line⟩
  have skipped := rest_skipTrivia ⟨text, line⟩
  generalize Cursor.skipTrivia ⟨text, line⟩ = c at counted skipped
  obtain ⟨rest, line'⟩ := c
  simp only [h] at counted skipped
  subst skipped
  rw [Nat.add_right_cancel counted]

/-! ### One token -/

/-- The longest word at the head of a text is its longest run of identifier characters, or goes on
with a foreign one. -/
theorem readWord_eq_or (text : List Char) :
    readWord text =
        (wordToken (String.ofList (text.takeWhile isIdentifierPart)),
          text.dropWhile isIdentifierPart) ∨
      readWord text =
          (.identifier (String.ofList (text.takeWhile isIdentifierPart)),
            text.dropWhile isIdentifierPart) ∧
        ∃ c rest, text.dropWhile isIdentifierPart = c :: rest ∧ isWordCharacter c = true ∧
          isIdentifierPart c = false := by
  have whole : text.takeWhile isIdentifierPart ++ text.dropWhile isIdentifierPart = text :=
    List.takeWhile_append_dropWhile
  have allParts : ∀ c ∈ text.takeWhile isIdentifierPart, isWordCharacter c = true := by
    intro c inside
    exact isWordCharacter_of_isIdentifierPart (List.mem_takeWhile_imp inside)
  -- does the word end where the run of identifier characters ends?
  by_cases stops : Stops isWordCharacter (text.dropWhile isIdentifierPart)
  · obtain ⟨taken, dropped⟩ := takeWhile_append_of_stops allParts stops
    rw [whole] at taken dropped
    refine Or.inl ?_
    rw [readWord, wordToken, taken, dropped]
    cases Keyword.ofSpelling? (String.ofList (text.takeWhile isIdentifierPart)) <;> rfl
  · have ends := stops_dropWhile isIdentifierPart text
    cases behind : text.dropWhile isIdentifierPart with
    | nil =>
        rw [behind] at stops
        exact absurd (stops_nil _) stops
    | cons c rest =>
        rw [behind, stops_cons] at stops ends
        have word : isWordCharacter c = true := by simpa using stops
        refine Or.inr ⟨?_, c, rest, rfl, word, ends⟩
        -- the whole word holds a character that no keyword has
        have foreign : c ∈ text.takeWhile isWordCharacter := by
          rw [← whole, List.takeWhile_append_of_pos allParts, behind,
            List.takeWhile_cons_of_pos word]
          simp
        rw [readWord, ofSpelling?_of_foreign foreign ends, behind]

/-- A quote is closed on its line exactly where the run of string characters ends with a quote. -/
theorem quote_mem_takeWhile_iff (text : List Char) :
    '"' ∈ text.takeWhile (· != '\n') ↔ ∃ rest, text.dropWhile isStringPart = '"' :: rest := by
  induction text with
  | nil => simp
  | cons c text ih =>
      by_cases quote : c = '"'
      · subst quote
        simp [isStringPart]
      · by_cases feed : c = '\n'
        · subst feed
          simp [isStringPart]
        · have part : isStringPart c = true := by simp [isStringPart, quote, feed]
          have same : (c != '\n') = true := by simpa using feed
          rw [List.takeWhile_cons, if_pos same, List.dropWhile_cons_of_pos part, List.mem_cons, ih]
          simp [Ne.symm quote]

/-- Up to a closing quote the string characters are all that are no quote. -/
theorem takeWhile_isStringPart {text rest : List Char}
    (h : text.dropWhile isStringPart = '"' :: rest) :
    text.takeWhile isStringPart = text.takeWhile (· != '"') ∧
      text.dropWhile (· != '"') = '"' :: rest := by
  have whole : text.takeWhile isStringPart ++ text.dropWhile isStringPart = text :=
    List.takeWhile_append_dropWhile
  have noQuote : ∀ c ∈ text.takeWhile isStringPart, (c != '"') = true := by
    intro c inside
    have part : isStringPart c = true := List.mem_takeWhile_imp inside
    simp only [isStringPart, Bool.and_eq_true] at part
    exact part.1
  rw [h] at whole
  obtain ⟨taken, dropped⟩ :=
    takeWhile_append_of_stops noQuote (stops_cons.2 rfl : Stops _ ('"' :: rest))
  rw [whole] at taken dropped
  exact ⟨taken.symm, dropped⟩

theorem readString_eq (text : List Char) :
    readString text =
      if '"' ∈ text.takeWhile (· != '\n') then
        .ok (.stringConstant (String.ofList (text.takeWhile (· != '"'))),
          (text.dropWhile (· != '"')).tail)
      else unexpectedToken ('"' :: text) := by
  by_cases closed : '"' ∈ text.takeWhile (· != '\n')
  · obtain ⟨rest, behind⟩ := (quote_mem_takeWhile_iff text).1 closed
    obtain ⟨taken, dropped⟩ := takeWhile_isStringPart behind
    simp only [if_pos closed, readString, behind, taken, dropped, List.tail_cons]
  · rw [if_neg closed, readString]
    split
    · rename_i rest behind
      exact absurd ((quote_mem_takeWhile_iff text).2 ⟨rest, behind⟩) closed
    · rfl

theorem readInteger_eq (text : List Char) :
    readInteger text =
      let digits := text.takeWhile Char.isDigit
      if h : Nat.ofDigitChars 10 digits 0 ≤ 65535 then
        .ok (.integerConstant (.ofNatLT (Nat.ofDigitChars 10 digits 0) (Nat.lt_succ_of_le h)),
          text.dropWhile Char.isDigit)
      else .error (.integerOutOfRange (String.ofList digits)) := by
  have value : decimalValue (text.takeWhile Char.isDigit) =
      Nat.ofDigitChars 10 (text.takeWhile Char.isDigit) 0 := Nat.ofDigitChars_eq_foldl.symm
  simp only [readInteger, value]
  by_cases fits : Nat.ofDigitChars 10 (text.takeWhile Char.isDigit) 0 ≤ 65535
  · rw [if_pos (Nat.lt_succ_of_le fits), dif_pos fits, UInt16.ofNatLT_eq_ofNat]
  · rw [if_neg (fun small => fits (Nat.le_of_lt_succ small)), dif_neg fits]

/-- The two scanners agree on a token, or part at a keyword with a foreign letter behind it. -/
theorem readToken_eq_munch_or (text : List Char) :
    readToken text = munch text ∨
      ∃ token token' c rest, readToken text = .ok (token, c :: rest) ∧
        munch text = .ok (token', c :: rest) ∧ isWordCharacter c = true ∧
        isIdentifierPart c = false := by
  cases text with
  | nil => exact Or.inl rfl
  | cons c text =>
      have symbolIff : symbols.toList.contains c = true ↔ c ∈ symbols.toList :=
        List.contains_iff_mem
      rw [readToken_cons, munch]
      by_cases start : isIdentifierStart c = true
      · -- the tests come in another order, so each case needs the others excluded
        have part := isIdentifierPart_of_start start
        obtain ⟨noSymbol, noQuote⟩ := not_symbol_of_isIdentifierPart part
        have noDigit := not_isDigit_of_isIdentifierStart start
        rw [if_neg (fun listed => noSymbol (symbolIff.1 listed)), if_neg (by simp [noDigit]),
          if_neg (by simpa using noQuote), if_pos start, if_pos start]
        rcases readWord_eq_or (c :: text) with same | ⟨other, d, rest, behind, word, foreign⟩
        · exact Or.inl (congrArg Except.ok same)
        · rw [other, behind]
          exact Or.inr ⟨_, _, d, rest, rfl, rfl, word, foreign⟩
      · rw [if_neg start, if_neg start]
        by_cases digit : c.isDigit = true
        · obtain ⟨noSymbol, -⟩ := not_symbol_of_isIdentifierPart (isIdentifierPart_of_isDigit digit)
          rw [if_neg (fun listed => noSymbol (symbolIff.1 listed)), if_pos digit, if_pos digit]
          exact Or.inl (readInteger_eq (c :: text))
        · rw [if_neg digit, if_neg digit]
          by_cases listed : c ∈ symbols.toList
          · rw [if_pos (symbolIff.2 listed), if_pos listed]
            exact Or.inl rfl
          · rw [if_neg (fun inside => listed (symbolIff.1 inside)), if_neg listed]
            by_cases quote : c = '"'
            · subst quote
              rw [if_pos (beq_self_eq_true '"'), readString_eq]
              simp only [true_and]
              exact Or.inl rfl
            · rw [if_neg (by simpa using quote), if_neg (fun both => quote both.1)]
              exact Or.inl rfl

/-! ### All tokens -/

/-- A text that begins with a foreign letter holds no token for either scanner. -/
theorem foreign_begins_nothing {c : Char} (rest : List Char) (word : isWordCharacter c = true)
    (foreign : isIdentifierPart c = false) :
    dropOne? (c :: rest) = none ∧ readToken (c :: rest) = unexpectedToken (c :: rest) ∧
      munch (c :: rest) = unexpectedToken (c :: rest) := by
  obtain ⟨dark, noSymbol, noDigit, noQuote, noStart⟩ := foreign_word_character word foreign
  refine ⟨dropOne?_eq_none dark fun slash => absurd (slash ▸ by decide) noSymbol, ?_, ?_⟩
  · simp [readToken_cons, noSymbol, noDigit, noQuote, noStart]
  · simp [munch, noSymbol, noDigit, noQuote, noStart, unexpectedToken]

theorem tokensFrom_of_nil {source remaining : List Char} (h : skip remaining = []) :
    tokensFrom source remaining = .ok [] := by
  rw [tokensFrom, h]
  rfl

theorem tokensFrom_of_ok {source remaining rest : List Char} {token : Token}
    (h : munch (skip remaining) = .ok (token, rest)) :
    tokensFrom source remaining = (tokensFrom source rest).map (token :: ·) := by
  have some : skip remaining ≠ [] := by
    intro empty
    rw [empty] at h
    cases h
  rw [tokensFrom, if_neg (by simpa using some)]
  split
  · rename_i token' rest' h'
    rw [h] at h'
    cases h'
    rfl
  · rename_i fault h'
    rw [h] at h'
    cases h'

theorem tokensFrom_of_error {source remaining : List Char} {fault : LexFault}
    (some : skip remaining ≠ []) (h : munch (skip remaining) = .error fault) :
    tokensFrom source remaining = .error ⟨lineOf source (skip remaining), fault⟩ := by
  rw [tokensFrom, if_neg (by simpa using some)]
  split
  · rename_i token rest h'
    rw [h] at h'
    cases h'
  · rename_i fault' h'
    rw [h] at h'
    cases h'
    rfl

/-- Both scanners end at a foreign letter, with the same error. -/
theorem ends_at_foreign (source : List Char) {c : Char} (rest : List Char) (line : Nat)
    (word : isWordCharacter c = true) (foreign : isIdentifierPart c = false) :
    ∃ fault, ((Cursor.skipTrivia ⟨c :: rest, line⟩).scanFrom []).result = .error ⟨line, fault⟩ ∧
      tokensFrom source (c :: rest) = .error ⟨lineOf source (c :: rest), fault⟩ := by
  obtain ⟨noTrivia, unread, unmunched⟩ := foreign_begins_nothing rest word foreign
  have stays : skip (c :: rest) = c :: rest := skip_of_none noTrivia
  refine ⟨.unexpectedToken (String.ofList ((c :: rest).takeWhile fun d => !isWhiteSpace d)), ?_, ?_⟩
  · rw [skipTrivia_of_skip line stays, Cursor.scanFrom_of_error (by simp) unread]
    rfl
  · rw [tokensFrom_of_error (by simp [stays]) (by rw [stays, unmunched]; rfl), stays]

/-- The scan of what remains of a source gives the tokens of the plain scanner, if its line is one
more than the line feeds that are gone. -/
theorem result_scanFrom (source remaining : List Char) (line : Nat)
    (counted : line + remaining.count '\n' = 1 + source.count '\n') :
    ((Cursor.skipTrivia ⟨remaining, line⟩).scanFrom []).result = tokensFrom source remaining := by
  -- on the length of what remains; the line is that of the line feeds passed, at every token
  induction length : remaining.length using Nat.strongRecOn generalizing remaining line with
  | ind n ih =>
      have counted' := (Cursor.line_skipTrivia ⟨remaining, line⟩).trans counted
      have skipped : (Cursor.skipTrivia ⟨remaining, line⟩).rest = skip remaining :=
        rest_skipTrivia _
      have shorter : (skip remaining).length ≤ n := length ▸ skip_length_le remaining
      generalize Cursor.skipTrivia ⟨remaining, line⟩ = c at counted' skipped
      rw [← skipped] at shorter
      have behind : lineOf source c.rest = c.line := by
        rw [lineOf]
        omega
      by_cases empty : c.rest = []
      · rw [tokensFrom_of_nil (skipped ▸ empty), Cursor.scanFrom_of_nil empty]
        rfl
      · rcases readToken_eq_munch_or c.rest with
          same | ⟨token, token', d, rest, read, munched, word, foreign⟩
        · cases answer : readToken c.rest with
          | error fault =>
              rw [Cursor.scanFrom_of_error empty answer,
                tokensFrom_of_error (skipped ▸ empty) (skipped ▸ same ▸ answer), ← skipped, behind]
              rfl
          | ok pair =>
              obtain ⟨token, rest⟩ := pair
              have munched : munch (skip remaining) = .ok (token, rest) := by
                rw [← skipped, ← same, answer]
              have later := ih rest.length (Nat.lt_of_lt_of_le (readToken_length_lt answer) shorter)
                rest c.line (by rw [readToken_count answer, counted']) rfl
              rw [Cursor.scanFrom_of_ok answer, Scan.result_prepend, later,
                tokensFrom_of_ok munched]
              rfl
        · -- the tokens differ, but neither is part of the answer
          obtain ⟨fault, ends, ends'⟩ := ends_at_foreign source rest c.line word foreign
          have behind' : lineOf source (d :: rest) = c.line := by
            rw [lineOf, readToken_count read]
            omega
          rw [Cursor.scanFrom_of_ok read, Scan.result_prepend, ends,
            tokensFrom_of_ok (skipped ▸ munched), ends', behind']
          rfl

end PlainScanner

/-- **The scanner agrees with the plain one.**  For every source they give the same tokens or the
same lexical error on the same line. -/
theorem tokenize_eq_plainScanner (source : String) : tokenize source = PlainScanner.tokens source :=
  PlainScanner.result_scanFrom source.toList source.toList 1 rfl

end JackSyntax
