/-
**Scanning, step by step.**

A scan passes its tokens along in reverse order and a cursor counts the lines as it goes.  Here both
are put into equations: a scan is its first token before the scan of what follows, and a cursor's
line is the number of line feeds behind it.

Main definitions:

* `Scan.prepend` — a scan with further tokens before it.

Main results:

* `Cursor.scanFrom_of_ok`, `Cursor.scanFrom_of_error`, `Cursor.scanFrom_of_nil` — the scan from a
  cursor;
* `Cursor.line_skipTrivia` — trivia moves line feeds from the text to the line;
* `readToken_count` — no token holds a line feed.
-/

import JackSyntax.Proofs.Lexing.Characters
import JackSyntax.Proofs.Lexing.Dispatch
import JackSyntax.Source.Scan

set_option relaxedAutoImplicit false
set_option autoImplicit false

namespace JackSyntax

/-! ### Tokens before a scan -/

namespace Scan

/-- A scan with further tokens before it. -/
def prepend (passed : List (Located Token)) (s : Scan) : Scan := ⟨passed ++ s.tokens, s.ending⟩

@[simp] theorem tokens_prepend (passed : List (Located Token)) (s : Scan) :
    (s.prepend passed).tokens = passed ++ s.tokens := rfl

@[simp] theorem ending_prepend (passed : List (Located Token)) (s : Scan) :
    (s.prepend passed).ending = s.ending := rfl

theorem prepend_append (first second : List (Located Token)) (s : Scan) :
    s.prepend (first ++ second) = (s.prepend second).prepend first := by
  simp [prepend]

theorem prepend_singleton_inj {first second : Located Token} {s t : Scan} :
    s.prepend [first] = t.prepend [second] ↔ first = second ∧ s = t := by
  cases s
  cases t
  simp [prepend, and_assoc]

theorem prepend_right_inj {first second : List (Located Token)} {s : Scan} :
    s.prepend first = s.prepend second ↔ first = second := by
  simp [prepend]

/-- Tokens before a scan are tokens before its result. -/
theorem result_prepend (passed : List (Located Token)) (s : Scan) :
    (s.prepend passed).result = s.result.map (passed.map Located.item ++ ·) := by
  obtain ⟨tokens, ending⟩ := s
  cases ending <;> simp [result, prepend, Except.map]

end Scan

/-! ### Lines -/

theorem readInteger_count {text rest : List Char} {token : Token}
    (h : readInteger text = .ok (token, rest)) : rest.count '\n' = text.count '\n' := by
  simp only [readInteger] at h
  split at h
  · obtain ⟨-, rfl⟩ := Prod.mk.inj (Except.ok.inj h)
    exact count_dropWhile rfl text
  · cases h

theorem readString_count {text rest : List Char} {token : Token}
    (h : readString text = .ok (token, rest)) : rest.count '\n' = text.count '\n' := by
  unfold readString at h
  split at h
  · rename_i tail closing
    obtain ⟨-, rfl⟩ := Prod.mk.inj (Except.ok.inj h)
    have same : (text.dropWhile isStringPart).count '\n' = text.count '\n' :=
      count_dropWhile rfl text
    rw [closing] at same
    simpa using same
  · cases h

theorem readWord_count (text : List Char) : (readWord text).2.count '\n' = text.count '\n' := by
  unfold readWord
  split
  · exact count_dropWhile (by decide +kernel) text
  · exact count_dropWhile rfl text

/-- Reading a token leaves all line feeds in the text. -/
theorem readToken_count {text rest : List Char} {token : Token}
    (h : readToken text = .ok (token, rest)) : rest.count '\n' = text.count '\n' := by
  rcases readToken_cases text with ⟨rfl, answer⟩ | ⟨c, text, rfl, ⟨listed, answer⟩ | ⟨-, answer⟩ |
    ⟨rfl, answer⟩ | ⟨-, answer⟩ | answer⟩ <;> rw [answer] at h
  · cases h
  · obtain ⟨-, rfl⟩ := Prod.mk.inj (Except.ok.inj h)
    refine (List.count_cons_of_ne ?_ ..).symm
    rintro rfl
    revert listed
    decide +kernel
  · exact readInteger_count h
  · exact (readString_count h).trans (by simp)
  · have same : (readWord (c :: text)).2 = rest := congrArg Prod.snd (Except.ok.inj h)
    exact same ▸ readWord_count (c :: text)
  · cases h

namespace Cursor

/-- Trivia moves line feeds from the text to the line. -/
theorem line_skipTrivia (c : Cursor) :
    c.skipTrivia.line + c.skipTrivia.rest.count '\n' = c.line + c.rest.count '\n' := by
  fun_induction skipTrivia c with
  | case1 c piece rest h ih =>
      rw [ih, ← splitTrivia?_append h, List.count_append, Nat.add_assoc]
  | case2 => rfl

/-! ### The scan from a cursor -/

theorem scanFrom_of_nil {c : Cursor} (h : c.rest = []) (passed : List (Located Token)) :
    c.scanFrom passed = ⟨passed.reverse, .atEnd c.line⟩ := by
  rw [scanFrom, if_pos (by simp [h])]

theorem scanFrom_of_error {c : Cursor} {fault : LexFault} (some : c.rest ≠ [])
    (h : readToken c.rest = .error fault) (passed : List (Located Token)) :
    c.scanFrom passed = ⟨passed.reverse, .failed ⟨c.line, fault⟩⟩ := by
  rw [scanFrom, if_neg (by simpa using some)]
  split
  · rename_i token rest h'
    rw [h] at h'
    cases h'
  · rename_i fault' h'
    rw [h] at h'
    cases h'
    rfl

theorem scanFrom_cons {c : Cursor} {token : Token} {rest : List Char}
    (h : readToken c.rest = .ok (token, rest)) (passed : List (Located Token)) :
    c.scanFrom passed = scanFrom (⟨c.line, token⟩ :: passed) (skipTrivia ⟨rest, c.line⟩) := by
  have some : c.rest ≠ [] := by
    intro empty
    rw [empty] at h
    cases h
  rw [scanFrom, if_neg (by simpa using some)]
  split
  · rename_i token' rest' h'
    rw [h] at h'
    cases h'
    rfl
  · rename_i fault h'
    rw [h] at h'
    cases h'

/-- The tokens passed along come before the tokens of the scan. -/
theorem scanFrom_eq_prepend (passed : List (Located Token)) (c : Cursor) :
    c.scanFrom passed = (c.scanFrom []).prepend passed.reverse := by
  induction length : c.rest.length using Nat.strongRecOn generalizing c passed with
  | ind n ih =>
      cases answer : readToken c.rest with
      | error fault =>
          by_cases empty : c.rest = []
          · rw [scanFrom_of_nil empty, scanFrom_of_nil empty]
            simp [Scan.prepend]
          · rw [scanFrom_of_error empty answer, scanFrom_of_error empty answer]
            simp [Scan.prepend]
      | ok pair =>
          obtain ⟨token, rest⟩ := pair
          have shorter := Nat.lt_of_le_of_lt (skipTrivia_length_le ⟨rest, c.line⟩)
            (readToken_length_lt answer)
          rw [length] at shorter
          rw [scanFrom_cons answer, scanFrom_cons answer, ih _ shorter _ _ rfl,
            ih _ shorter [_] _ rfl, ← Scan.prepend_append]
          simp

/-- A scan is its first token before the scan of what follows. -/
theorem scanFrom_of_ok {c : Cursor} {token : Token} {rest : List Char}
    (h : readToken c.rest = .ok (token, rest)) :
    c.scanFrom [] = ((skipTrivia ⟨rest, c.line⟩).scanFrom []).prepend [⟨c.line, token⟩] := by
  rw [scanFrom_cons h, scanFrom_eq_prepend]
  rfl

end Cursor

end JackSyntax
