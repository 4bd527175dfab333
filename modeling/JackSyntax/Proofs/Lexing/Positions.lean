/-
**Where the tokens of a source stand.**

A cursor does not remember what it has passed; all that it keeps is a line.  Still it always stands
somewhere in the source, before the first character of a token or at the end, and its line is one
more than the number of line feeds before that place.  This holds at the beginning, and each token
that is read preserves it: no token holds a line feed, and trivia moves its line feeds to the line.

The same places are found again in the scan of the source, which the parser reads: wherever a scan
is cut in two, there is a cursor between the parts.

Main definitions:

* `Cursor.StandsIn` — a cursor stands in a text, and its line is right;
* `LexFault.offending` — the text that a lexical error shows;
* `Reached` — the cursors that are met while the tokens of a source are read.

Main results:

* `Cursor.spelled_of_next?`, `Reached.offending` — tokens and errors begin at the cursor;
* `Reached.standsIn` — **the line is right at every token**;
* `Reached.line_of_end` — and so it is at the end;
* `exists_reached` — between two parts of a scan there is a cursor.
-/

import Mathlib.Data.List.Induction
import JackSyntax.Proofs.Lexing.Spelling

set_option relaxedAutoImplicit false
set_option autoImplicit false

namespace JackSyntax

/-- A cursor stands in a text: what remains is the end of the text, and the line is one more than
the number of line feeds before it. -/
def Cursor.StandsIn (text : List Char) (c : Cursor) : Prop :=
  ∃ before, text = before ++ c.rest ∧ c.line = 1 + before.count '\n'

/-- The text that a lexical error shows. -/
def LexFault.offending : LexFault → List Char
  | .endOfInput => []
  | .unexpectedToken fragment => fragment.toList
  | .integerOutOfRange digits => digits.toList

/-- `Reached source tokens c`: the tokens have been taken off the source one after the other,
without an error, and the cursor stands behind them. -/
inductive Reached (source : String) : List Token → Cursor → Prop
  | start : Reached source [] (.ofSource source)
  | next {tokens : List Token} {c c' : Cursor} {token : Token} :
      Reached source tokens c → c.next? = (some (.ok token), c') →
      Reached source (tokens ++ [token]) c'

/-! ### The text of a token -/

theorem readInteger_spelled {c : Char} {text rest : List Char} {token : Token}
    (digit : c.isDigit = true) (h : readInteger (c :: text) = .ok (token, rest)) :
    ∃ spelling, c :: text = spelling ++ rest ∧ token.IsSpelledAs spelling := by
  rw [PlainScanner.readInteger_eq] at h
  dsimp only at h
  split at h
  · rename_i fits
    obtain ⟨rfl, rfl⟩ := Prod.mk.inj (Except.ok.inj h)
    refine ⟨_, List.takeWhile_append_dropWhile.symm, takeWhile_cons_ne_nil digit text,
      fun d => List.mem_takeWhile_imp, ?_⟩
    rw [UInt16.toNat_ofNatLT]
  · cases h

theorem readString_spelled {text rest : List Char} {token : Token}
    (h : readString text = .ok (token, rest)) :
    ∃ spelling, '"' :: text = spelling ++ rest ∧ token.IsSpelledAs spelling := by
  unfold readString at h
  split at h
  · rename_i behind closing
    obtain ⟨rfl, rfl⟩ := Prod.mk.inj (Except.ok.inj h)
    have whole : text.takeWhile isStringPart ++ text.dropWhile isStringPart = text :=
      List.takeWhile_append_dropWhile
    rw [closing] at whole
    refine ⟨_, ?_, Token.isSpelledAs_written _⟩
    simp [Token.written, Token.tag, Token.lexeme, whole]
  · cases h

theorem readWord_spelled (text : List Char) :
    ∃ spelling, text = spelling ++ (readWord text).2 ∧ (readWord text).1.IsSpelledAs spelling := by
  unfold readWord
  split
  · rename_i word spelled
    refine ⟨_, List.takeWhile_append_dropWhile.symm, ?_⟩
    have same := congrArg String.toList (Keyword.spelling_of_ofSpelling? spelled)
    rw [String.toList_ofList] at same
    exact same.symm
  · exact ⟨_, List.takeWhile_append_dropWhile.symm, String.toList_ofList.symm⟩

/-- A token is read from one of its spellings. -/
theorem readToken_spelled {text rest : List Char} {token : Token}
    (h : readToken text = .ok (token, rest)) :
    ∃ spelling, text = spelling ++ rest ∧ token.IsSpelledAs spelling := by
  rcases readToken_cases text with ⟨rfl, answer⟩ | ⟨c, text, rfl, ⟨-, answer⟩ | ⟨digit, answer⟩ |
    ⟨rfl, answer⟩ | ⟨-, answer⟩ | answer⟩ <;> rw [answer] at h
  · cases h
  · obtain ⟨rfl, rfl⟩ := Prod.mk.inj (Except.ok.inj h)
    exact ⟨[c], rfl, Token.isSpelledAs_symbol.2 rfl⟩
  · exact readInteger_spelled digit h
  · exact readString_spelled h
  · have spelled := readWord_spelled (c :: text)
    rwa [Except.ok.inj h] at spelled
  · cases h

/-! ### The text of an error -/

theorem not_isWhiteSpace_of_splitTrivia? {c : Char} {text : List Char}
    (h : splitTrivia? (c :: text) = none) : isWhiteSpace c = false := by
  refine Bool.eq_false_iff.2 fun blank => ?_
  have stays := PlainScanner.dropOne?_of_splitTrivia? h
  rw [PlainScanner.dropOne?_of_isWhiteSpace blank] at stays
  cases stays

theorem unexpectedToken_offending {c : Char} {text : List Char} {fault : LexFault}
    (dark : isWhiteSpace c = false) (h : unexpectedToken (c :: text) = .error fault) :
    fault.offending ≠ [] ∧ fault.offending <+: c :: text := by
  obtain rfl := Except.error.inj h
  rw [LexFault.offending, String.toList_ofList]
  exact ⟨takeWhile_cons_ne_nil (by simp [dark]) text, List.takeWhile_prefix _⟩

theorem readInteger_offending {c : Char} {text : List Char} {fault : LexFault}
    (digit : c.isDigit = true) (h : readInteger (c :: text) = .error fault) :
    fault.offending ≠ [] ∧ fault.offending <+: c :: text := by
  rw [PlainScanner.readInteger_eq] at h
  dsimp only at h
  split at h
  · cases h
  · obtain rfl := Except.error.inj h
    rw [LexFault.offending, String.toList_ofList]
    exact ⟨takeWhile_cons_ne_nil digit text, List.takeWhile_prefix _⟩

/-- A lexical error shows a part of the text that begins where no token does. -/
theorem readToken_offending {text : List Char} {fault : LexFault} (some : text ≠ [])
    (untrivial : splitTrivia? text = none) (h : readToken text = .error fault) :
    fault.offending ≠ [] ∧ fault.offending <+: text := by
  rcases readToken_cases text with ⟨rfl, -⟩ | ⟨c, text, rfl, ⟨-, answer⟩ | ⟨digit, answer⟩ |
    ⟨rfl, answer⟩ | ⟨-, answer⟩ | answer⟩
  · exact absurd rfl some
  all_goals rw [answer] at h
  · cases h
  · exact readInteger_offending digit h
  · rw [PlainScanner.readString_eq] at h
    split at h
    · cases h
    · exact unexpectedToken_offending (by decide) h
  · cases h
  · exact unexpectedToken_offending (not_isWhiteSpace_of_splitTrivia? untrivial) h

/-! ### One step of a cursor -/

namespace Cursor

variable {text : List Char} {c c' : Cursor} {token : Token}

theorem hasMore_eq_false : c.hasMore = false ↔ c.rest = [] := by
  simp [hasMore]

/-- A token is yielded where one can be read; the cursor goes on behind the trivia that follows. -/
theorem next?_eq_ok_iff :
    c.next? = (some (.ok token), c') ↔
      ∃ rest, readToken c.rest = .ok (token, rest) ∧ skipTrivia ⟨rest, c.line⟩ = c' := by
  unfold next? nextToken hasMore
  cases empty : c.rest with
  | nil => simp [readToken]
  | cons first others =>
      cases readToken (first :: others) <;> simp [Prod.ext_iff, and_assoc]

/-- An error is yielded where no token can be read but some text remains. -/
theorem next?_eq_error_iff {error : LexError} :
    c.next? = (some (.error error), c') ↔
      c.rest ≠ [] ∧ readToken c.rest = .error error.item ∧ error.line = c.line ∧
        c' = ⟨[], c.line⟩ := by
  unfold next? nextToken hasMore
  obtain ⟨line, fault⟩ := error
  cases empty : c.rest with
  | nil => simp
  | cons first others =>
      cases readToken (first :: others) with
      | ok pair => simp
      | error fault' => simp [eq_comm, and_left_comm, and_assoc]

/-- A token that is yielded begins at the cursor, and the cursor goes on behind it and the trivia
that follows. -/
theorem spelled_of_next? (h : c.next? = (some (.ok token), c')) :
    ∃ spelling behind, c.rest = spelling ++ behind ∧ spelling ≠ [] ∧ token.IsSpelledAs spelling ∧
      c'.rest = PlainScanner.skip behind := by
  obtain ⟨behind, read, rfl⟩ := next?_eq_ok_iff.1 h
  obtain ⟨spelling, split, spelled⟩ := readToken_spelled read
  refine ⟨spelling, behind, split, ?_, spelled, PlainScanner.rest_skipTrivia _⟩
  rintro rfl
  have shorter := readToken_length_lt read
  rw [split] at shorter
  exact Nat.lt_irrefl _ shorter

/-- Trivia that is skipped counts towards the line. -/
theorem StandsIn.skipTrivia (h : c.StandsIn text) : c.skipTrivia.StandsIn text := by
  fun_induction Cursor.skipTrivia c with
  | case1 c piece rest split ih =>
      obtain ⟨before, whole, line⟩ := h
      refine ih ⟨before ++ piece, ?_, ?_⟩
      · rw [whole, List.append_assoc, splitTrivia?_append split]
      · rw [line, List.count_append, Nat.add_assoc]
  | case2 => exact h

/-- A token that is read leaves the line as it is. -/
theorem StandsIn.behind {rest : List Char} (h : c.StandsIn text)
    (read : readToken c.rest = .ok (token, rest)) : StandsIn text ⟨rest, c.line⟩ := by
  obtain ⟨before, whole, line⟩ := h
  obtain ⟨spelling, split, -⟩ := readToken_spelled read
  have counted := readToken_count read
  rw [split, List.count_append] at counted
  refine ⟨before ++ spelling, ?_, ?_⟩
  · rw [whole, split, List.append_assoc]
  · rw [line, List.count_append]
    omega

theorem splitTrivia?_skipTrivia (c : Cursor) : splitTrivia? c.skipTrivia.rest = none := by
  fun_induction Cursor.skipTrivia c with
  | case1 c piece rest split ih => exact ih
  | case2 c none => exact none

/-! ### The scan from a cursor -/

/-- What is scanned from a cursor on is what the cursor yields, and what is scanned behind that. -/
theorem scanFrom_cases (c : Cursor) :
    c.rest = [] ∧ c.scanFrom [] = ⟨[], .atEnd c.line⟩ ∨
      (∃ error c', c.next? = (some (.error error), c') ∧ error.line = c.line ∧
        c.scanFrom [] = ⟨[], .failed error⟩) ∨
      ∃ token c', c.next? = (some (.ok token), c') ∧
        c.scanFrom [] = (c'.scanFrom []).prepend [⟨c.line, token⟩] := by
  cases answer : readToken c.rest with
  | ok pair =>
      obtain ⟨token, rest⟩ := pair
      exact Or.inr (Or.inr ⟨token, _, next?_eq_ok_iff.2 ⟨rest, answer, rfl⟩, scanFrom_of_ok answer⟩)
  | error fault =>
      by_cases empty : c.rest = []
      · exact Or.inl ⟨empty, scanFrom_of_nil empty []⟩
      · have failed : c.next? = (some (.error ⟨c.line, fault⟩), ⟨[], c.line⟩) :=
          next?_eq_error_iff.2 ⟨empty, answer, rfl, rfl⟩
        exact Or.inr (Or.inl ⟨_, _, failed, rfl, scanFrom_of_error empty answer []⟩)

theorem line_scanFrom (c : Cursor) : (c.scanFrom []).line = c.line := by
  rcases c.scanFrom_cases with ⟨-, scanned⟩ | ⟨error, -, -, same, scanned⟩ | ⟨token, c', -, scanned⟩
  · rw [scanned]
    rfl
  · rw [scanned]
    exact same
  · rw [scanned]
    rfl

/-- The first token that is scanned from a cursor on is the one that it yields. -/
theorem next?_of_scanFrom {first : Located Token} {ahead : Scan}
    (h : c.scanFrom [] = ahead.prepend [first]) :
    ∃ c', c.next? = (some (.ok first.item), c') ∧ c'.scanFrom [] = ahead := by
  rcases c.scanFrom_cases with ⟨-, scanned⟩ | ⟨error, -, -, -, scanned⟩ |
    ⟨token, c', step, scanned⟩
  · rw [scanned] at h
    cases h
  · rw [scanned] at h
    cases h
  · rw [scanned] at h
    obtain ⟨rfl, same⟩ := Scan.prepend_singleton_inj.1 h
    exact ⟨c', step, same⟩

/-- The error that cuts a scan off is the one that the cursor before it yields. -/
theorem next?_of_failed {error : LexError} (noTokens : (c.scanFrom []).tokens = [])
    (failed : (c.scanFrom []).ending = .failed error) :
    ∃ c', c.next? = (some (.error error), c') := by
  rcases c.scanFrom_cases with ⟨-, scanned⟩ | ⟨error', c', step, -, scanned⟩ |
    ⟨token, c', -, scanned⟩
  · rw [scanned] at failed
    cases failed
  · rw [scanned] at failed
    cases failed
    exact ⟨c', step⟩
  · rw [scanned] at noTokens
    cases noTokens

/-- A scan without tokens and without an error is that of an empty text. -/
theorem rest_eq_nil_of_atEnd {line : Nat} (noTokens : (c.scanFrom []).tokens = [])
    (atEnd : (c.scanFrom []).ending = .atEnd line) : c.rest = [] := by
  rcases c.scanFrom_cases with ⟨empty, -⟩ | ⟨error, -, -, -, scanned⟩ | ⟨token, c', -, scanned⟩
  · exact empty
  · rw [scanned] at atEnd
    cases atEnd
  · rw [scanned] at noTokens
    cases noTokens

end Cursor

/-! ### The cursors of a source -/

namespace Reached

variable {source : String} {tokens : List Token} {c : Cursor}

/-- A cursor that is reached rests where no trivia begins. -/
theorem splitTrivia?_eq_none (h : Reached source tokens c) : splitTrivia? c.rest = none := by
  cases h with
  | start => exact Cursor.splitTrivia?_skipTrivia _
  | next _ step =>
      obtain ⟨rest, -, rfl⟩ := Cursor.next?_eq_ok_iff.1 step
      exact Cursor.splitTrivia?_skipTrivia _

/-- The line of a cursor that is reached is right. -/
theorem standsIn (h : Reached source tokens c) : c.StandsIn source.toList := by
  induction h with
  | start => exact Cursor.StandsIn.skipTrivia ⟨[], rfl, rfl⟩
  | next _ step ih =>
      obtain ⟨rest, read, rfl⟩ := Cursor.next?_eq_ok_iff.1 step
      exact (ih.behind read).skipTrivia

/-- There are no more lines than line feeds, and one. -/
theorem line_le (h : Reached source tokens c) : c.line ≤ 1 + source.toList.count '\n' := by
  obtain ⟨before, whole, line⟩ := h.standsIn
  rw [whole, line, List.count_append]
  omega

/-- At the end of the source all line feeds have been counted. -/
theorem line_of_end (h : Reached source tokens c) (atEnd : c.rest = []) :
    c.line = 1 + source.toList.count '\n' := by
  obtain ⟨before, whole, line⟩ := h.standsIn
  rw [whole, line, atEnd, List.append_nil]

/-- An error that is yielded shows a part of the source that begins at the cursor. -/
theorem offending (h : Reached source tokens c) {error : LexError} {c' : Cursor}
    (step : c.next? = (some (.error error), c')) :
    error.line = c.line ∧ error.item.offending ≠ [] ∧ error.item.offending <+: c.rest := by
  obtain ⟨some, read, same, -⟩ := Cursor.next?_eq_error_iff.1 step
  exact ⟨same, readToken_offending some h.splitTrivia?_eq_none read⟩

/-- The tokens that have been read are the first ones of the scan, and the others are ahead. -/
theorem scan_eq (h : Reached source tokens c) :
    ∃ passed, passed.map Located.item = tokens ∧ scan source = (c.scanFrom []).prepend passed := by
  induction h with
  | start => exact ⟨[], rfl, rfl⟩
  | @next _ c _ token _ step ih =>
      obtain ⟨passed, rfl, whole⟩ := ih
      obtain ⟨rest, read, rfl⟩ := Cursor.next?_eq_ok_iff.1 step
      refine ⟨passed ++ [⟨c.line, token⟩], by simp, ?_⟩
      rw [whole, Cursor.scanFrom_of_ok read, Scan.prepend_append]

end Reached

/-- Wherever the scan of a source is cut in two, there is a cursor between the parts. -/
theorem exists_reached {source : String} {passed : List (Located Token)} {ahead : Scan}
    (h : scan source = ahead.prepend passed) :
    ∃ c, Reached source (passed.map Located.item) c ∧ c.scanFrom [] = ahead := by
  induction passed using List.reverseRecOn generalizing ahead with
  | nil => exact ⟨_, .start, h⟩
  | append_singleton passed last ih =>
      rw [Scan.prepend_append] at h
      obtain ⟨c, reached, same⟩ := ih h
      obtain ⟨c', step, same'⟩ := Cursor.next?_of_scanFrom same
      refine ⟨c', ?_, same'⟩
      rw [List.map_append]
      exact .next reached step

/-- Behind all tokens of a source there is a cursor, before the ending. -/
theorem exists_reached_ending (source : String) :
    ∃ c, Reached source ((scan source).tokens.map Located.item) c ∧
      (c.scanFrom []).tokens = [] ∧ (c.scanFrom []).ending = (scan source).ending := by
  obtain ⟨c, reached, same⟩ := exists_reached
    (show scan source = Scan.prepend (scan source).tokens ⟨[], (scan source).ending⟩ by
      simp [Scan.prepend])
  exact ⟨c, reached, by rw [same], by rw [same]⟩

end JackSyntax
