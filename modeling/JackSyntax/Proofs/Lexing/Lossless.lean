/-
**Nothing but trivia is lost.**

A cursor drops the text it has passed, and only the tokens remain of it.  Still the text is known up
to the choice of its trivia: it is a separator and a spelling of the first token, a separator and a
spelling of the second, and so on, with one more separator before what remains.  The last one may
end in a comment that the end of the source cuts off; all the others are closed, since a token
follows them.  What remains begins with nothing that could still be skipped, so a lexical error
shows the text at that place and not some text behind it.

Main definitions:

* `Stretch` — a token as it stands in a source, with the separator before it;
* `EndsBefore` — a separator before what remains of a source;
* `IsLongestRun` — the longest run of characters of a kind at the head of a text;
* `firstWord?` — the first word of a text, up to white space;
* `LexFault.Shows` — what a lexical error shows of a text;
* `IsConsumed` — a source as what a cursor has passed and what remains.

Main results:

* `PlainScanner.dropOne?_cases`, `PlainScanner.exists_separator` — what is dropped and what is
  skipped;
* `Reached.isConsumed` — **the text that was passed is the tokens and the trivia between them**;
* `shows_of_readToken` — an error shows the longest run at the head of the text;
* `consumed_source_is_tokens_and_trivia` — the same for any run of calls.
-/

import JackSyntax.Proofs.Lexing.Calls
import JackSyntax.Proofs.Lexing.Separators

set_option relaxedAutoImplicit false
set_option autoImplicit false

namespace JackSyntax

/-! ### Separators that were skipped -/

/-- A separator before what remains of a source.  Its last comment may be cut off by the end of the
source, so that nothing remains. -/
def EndsBefore (rest gap : List Char) : Prop := IsSeparator gap ∨ rest = [] ∧ IsLastSeparator gap

theorem IsSeparator.append {first second : List Char} (h : IsSeparator first)
    (h' : IsSeparator second) : IsSeparator (first ++ second) := by
  induction h with
  | nil => exact h'
  | blank blank _ ih => exact .blank blank ih
  | line noFeed _ ih => simpa using IsSeparator.line noFeed ih
  | block open_ _ ih => simpa using IsSeparator.block open_ ih

theorem IsLastSeparator.append {first second : List Char} (h : IsSeparator first)
    (h' : IsLastSeparator second) : IsLastSeparator (first ++ second) := by
  rcases h' with closed | ⟨before, comment, rfl, separates, noFeed⟩
  · exact Or.inl (h.append closed)
  · exact Or.inr ⟨first ++ before, comment, by simp, h.append separates, noFeed⟩

theorem EndsBefore.append {first gap rest : List Char} (h : IsSeparator first)
    (h' : EndsBefore rest gap) : EndsBefore rest (first ++ gap) :=
  h'.imp h.append fun cut => ⟨cut.1, cut.2.append h⟩

/-- Before a text that goes on a separator is closed. -/
theorem EndsBefore.isSeparator {gap rest : List Char} (h : EndsBefore rest gap)
    (some : rest ≠ []) : IsSeparator gap :=
  h.resolve_right fun cut => some cut.1

namespace PlainScanner

/-- What stands before the first `*/` holds none. -/
theorem exists_comment_of_behindClose? {text rest : List Char} (h : behindClose? text = some rest) :
    ∃ comment, text = comment ++ '*' :: '/' :: rest ∧ ¬ ['*', '/'] <:+: comment := by
  fun_induction behindClose? text with
  | case1 behind =>
      obtain rfl := Option.some.inj h
      exact ⟨[], rfl, by simp⟩
  | case2 c text noClose ih =>
      obtain ⟨comment, rfl, open_⟩ := ih h
      refine ⟨c :: comment, rfl, fun inside => ?_⟩
      rcases List.infix_cons_iff.1 inside with ⟨tail, same⟩ | inside
      · -- a `*/` at the head of the comment would have been found at once
        obtain ⟨rfl, rfl⟩ := List.cons.inj same
        exact noClose _ rfl rfl
      · exact open_ inside
  | case3 => cases h

/-- What is dropped from the head of a text is a separator, or a comment up to the end of its
line. -/
theorem dropOne?_cases {text rest : List Char} (h : dropOne? text = some rest) :
    (∃ piece, text = piece ++ rest ∧ piece ≠ [] ∧ IsSeparator piece) ∨
      ∃ comment, text = '/' :: '/' :: (comment ++ rest) ∧ '\n' ∉ comment ∧
        ∀ c ∈ rest.head?, c = '\n' := by
  unfold dropOne? at h
  split at h
  · rename_i comment
    obtain rfl := Option.some.inj h
    refine Or.inr ⟨comment.takeWhile (· != '\n'), ?_, fun inside => ?_, fun c first => ?_⟩
    · rw [List.takeWhile_append_dropWhile]
    · simpa using List.mem_takeWhile_imp inside
    · simpa using stops_dropWhile (· != '\n') comment c first
  · obtain ⟨comment, rfl, open_⟩ := exists_comment_of_behindClose? h
    exact Or.inl ⟨'/' :: '*' :: (comment ++ ['*', '/']), by simp, List.cons_ne_nil _ _,
      .block open_ .nil⟩
  · rename_i c text _ _
    split at h
    · rename_i blank
      obtain rfl := Option.some.inj h
      exact Or.inl ⟨[c], rfl, List.cons_ne_nil _ _, .blank blank .nil⟩
    · cases h
  · cases h

/-- What is skipped at the head of a text is a separator, and a comment is cut off only where
nothing remains. -/
theorem exists_separator (text : List Char) :
    ∃ gap, text = gap ++ skip text ∧ EndsBefore (skip text) gap := by
  induction length : text.length using Nat.strongRecOn generalizing text with
  | ind n ih =>
      -- a separator at the head and what is skipped behind it are skipped together
      have behind : ∀ first rest, text = first ++ rest → first ≠ [] → IsSeparator first →
          ∃ gap, text = gap ++ skip text ∧ EndsBefore (skip text) gap := by
        rintro first rest rfl some separates
        have shorter : rest.length < n := by
          have positive := List.length_pos_iff.2 some
          rw [← length, List.length_append]
          omega
        obtain ⟨gap, whole, ends⟩ := ih _ shorter rest rfl
        rw [skip_separator separates]
        exact ⟨first ++ gap, by rw [List.append_assoc, ← whole], ends.append separates⟩
      cases dropped : dropOne? text with
      | none => exact ⟨[], by rw [skip_of_none dropped]; rfl, Or.inl .nil⟩
      | some rest =>
          rcases dropOne?_cases dropped with ⟨piece, whole, some, separates⟩ |
            ⟨comment, whole, noFeed, feed⟩
          · exact behind piece rest whole some separates
          · cases rest with
            | nil =>
                rw [skip_of_some dropped, skip_of_none rfl]
                refine ⟨text, (List.append_nil _).symm, Or.inr ⟨rfl, Or.inr ⟨[], comment, ?_⟩⟩⟩
                exact ⟨by simpa using whole, .nil, noFeed⟩
            | cons c rest =>
                -- the line feed behind the comment closes it
                obtain rfl : c = '\n' := feed c rfl
                exact behind ('/' :: '/' :: (comment ++ ['\n'])) rest (by simpa using whole)
                  (List.cons_ne_nil _ _) (.line noFeed .nil)

/-- A comment that is closed has something behind its first `*/`. -/
theorem behindClose?_ne_none (comment rest : List Char) :
    behindClose? (comment ++ '*' :: '/' :: rest) ≠ none := by
  induction comment with
  | nil => exact nofun
  | cons c comment ih =>
      intro none
      unfold behindClose? at none
      split at none
      · cases none
      · rename_i same
        rw [List.cons_append] at same
        rw [← (List.cons.inj same).2] at none
        exact ih none
      · rename_i impossible
        cases impossible

end PlainScanner

/-! ### The text of an error -/

/-- The longest part at the head of a text that has only characters of a kind. -/
structure IsLongestRun (p : Char → Bool) (run text : List Char) : Prop where
  head : run <+: text
  only : ∀ c ∈ run, p c = true
  longest : ∀ other, other <+: text → (∀ c ∈ other, p c = true) → other <+: run

theorem isLongestRun_takeWhile (p : Char → Bool) (text : List Char) :
    IsLongestRun p (text.takeWhile p) text where
  head := List.takeWhile_prefix p
  only c := List.mem_takeWhile_imp
  longest := by
    rintro other ⟨rest, rfl⟩ only
    rw [List.takeWhile_append_of_pos only]
    exact List.prefix_append _ _

/-- The first word of a text, which ends at white space, if the text has any word. -/
def firstWord? (text : List Char) : Option (List Char) :=
  match text.dropWhile isWhiteSpace with
  | [] => none
  | c :: rest => some ((c :: rest).takeWhile fun d => !isWhiteSpace d)

theorem firstWord?_cons {c : Char} (dark : isWhiteSpace c = false) (rest : List Char) :
    firstWord? (c :: rest) = some ((c :: rest).takeWhile fun d => !isWhiteSpace d) := by
  rw [firstWord?, List.dropWhile_cons_of_neg (by simp [dark])]

/-- What a lexical error shows of the text at which it arises. -/
def LexFault.Shows (text : List Char) : LexFault → Prop
  | .endOfInput => text = []
  | .unexpectedToken fragment =>
      fragment.toList ≠ [] ∧ IsLongestRun (fun c => !isWhiteSpace c) fragment.toList text ∧
        firstWord? text = some fragment.toList
  | .integerOutOfRange digits =>
      digits.toList ≠ [] ∧ IsLongestRun Char.isDigit digits.toList text

/-- Why no token can be read at the head of a text. -/
theorem readToken_eq_error {text : List Char} {fault : LexFault}
    (h : readToken text = .error fault) :
    fault = .endOfInput ∧ text = [] ∨
      fault = .unexpectedToken (String.ofList (text.takeWhile fun c => !isWhiteSpace c)) ∨
      fault = .integerOutOfRange (String.ofList (text.takeWhile Char.isDigit)) := by
  rcases readToken_cases text with ⟨rfl, answer⟩ | ⟨c, rest, rfl, ⟨-, answer⟩ | ⟨-, answer⟩ |
    ⟨rfl, answer⟩ | ⟨-, answer⟩ | answer⟩ <;> rw [answer] at h
  · exact Or.inl ⟨(Except.error.inj h).symm, rfl⟩
  · cases h
  · rw [PlainScanner.readInteger_eq] at h
    dsimp only at h
    split at h
    · cases h
    · exact Or.inr (Or.inr (Except.error.inj h).symm)
  · rw [PlainScanner.readString_eq] at h
    split at h
    · cases h
    · exact Or.inr (Or.inl (Except.error.inj h).symm)
  · cases h
  · exact Or.inr (Or.inl (Except.error.inj h).symm)

/-- An error shows the longest run of its kind at the head of the text, which is not empty. -/
theorem shows_of_readToken {text : List Char} {fault : LexFault}
    (untrivial : splitTrivia? text = none) (h : readToken text = .error fault) :
    fault.Shows text := by
  have offending := fun some => (readToken_offending some untrivial h).1
  cases text with
  | nil =>
      obtain rfl := Except.error.inj h
      rfl
  | cons c rest =>
      rcases readToken_eq_error h with ⟨-, empty⟩ | rfl | rfl
      · cases empty
      · have shown := offending (List.cons_ne_nil _ _)
        refine ⟨shown, ?_, ?_⟩ <;> rw [String.toList_ofList]
        · exact isLongestRun_takeWhile _ _
        · exact firstWord?_cons (not_isWhiteSpace_of_splitTrivia? untrivial) rest
      · refine ⟨offending (List.cons_ne_nil _ _), ?_⟩
        rw [String.toList_ofList]
        exact isLongestRun_takeWhile _ _

/-! ### The text that was passed -/

/-- A token as it stands in a source: one of its spellings, behind a separator. -/
structure Stretch where
  gap : List Char
  spelling : List Char
  token : Token
  separates : IsSeparator gap
  spelled : token.IsSpelledAs spelling

/-- The text of a token with the separator before it. -/
def Stretch.text (stretch : Stretch) : List Char := stretch.gap ++ stretch.spelling

/-- A source as what has been passed on the way to a cursor and what remains there. -/
structure IsConsumed (source : List Char) (tokens : List Token) (rest : List Char) : Prop where
  /-- The text that was passed is the tokens, in any of their spellings, and the separators before
  them, between them and behind them. -/
  passed : ∃ (stretches : List Stretch) (last : List Char),
    source = stretches.flatMap Stretch.text ++ last ++ rest ∧
      stretches.map Stretch.token = tokens ∧ EndsBefore rest last
  /-- What remains does not begin with white space. -/
  dark : ∀ c ∈ rest.head?, isWhiteSpace c = false
  /-- Nor does it begin with a comment up to the end of the line. -/
  noLine : ¬ ['/', '/'] <+: rest
  /-- Nor does it begin with a comment that is closed. -/
  noBlock : ∀ comment, ¬ '/' :: '*' :: (comment ++ ['*', '/']) <+: rest

namespace Reached

variable {source : String} {tokens : List Token} {c : Cursor}

/-- What was passed on the way to a cursor is the tokens with trivia between them. -/
theorem passed (h : Reached source tokens c) :
    ∃ (stretches : List Stretch) (last : List Char),
      source.toList = stretches.flatMap Stretch.text ++ last ++ c.rest ∧
        stretches.map Stretch.token = tokens ∧ EndsBefore c.rest last := by
  induction h with
  | start =>
      obtain ⟨gap, whole, ends⟩ := PlainScanner.exists_separator source.toList
      rw [← PlainScanner.rest_skipTrivia ⟨source.toList, 1⟩] at whole ends
      exact ⟨[], gap, whole, rfl, ends⟩
  | @next tokens c c' token _ step ih =>
      obtain ⟨stretches, last, whole, rfl, ends⟩ := ih
      obtain ⟨spelling, behind, split, some, spelled, skipped⟩ := Cursor.spelled_of_next? step
      -- a token follows, so that the separator before it is closed
      have closed : IsSeparator last := ends.isSeparator (by simp [split, some])
      obtain ⟨gap, after, ends'⟩ := PlainScanner.exists_separator behind
      rw [← skipped] at after ends'
      refine ⟨stretches ++ [⟨last, spelling, token, closed, spelled⟩], gap, ?_, by simp, ends'⟩
      rw [whole, split, after]
      simp [Stretch.text]

/-- **The text that was passed is the tokens and the trivia between them**, and no trivia
follows. -/
theorem isConsumed (h : Reached source tokens c) : IsConsumed source.toList tokens c.rest := by
  have stays := PlainScanner.dropOne?_of_splitTrivia? h.splitTrivia?_eq_none
  refine ⟨h.passed, fun first ahead => ?_, ?_, ?_⟩
  · obtain ⟨rest, whole⟩ := List.head?_eq_some_iff.1 ahead
    exact not_isWhiteSpace_of_splitTrivia? (whole ▸ h.splitTrivia?_eq_none)
  · rintro ⟨rest, whole⟩
    rw [← whole] at stays
    cases stays
  · rintro comment ⟨rest, whole⟩
    rw [← whole] at stays
    simp only [List.cons_append, List.append_assoc, List.nil_append] at stays
    exact PlainScanner.behindClose?_ne_none comment rest stays

end Reached

/-- **Lexing loses nothing but trivia.**  After any run of calls without a lexical error the source
is the tokens that were yielded, in spellings of theirs, with separators between them, before what
remains at the cursor, which no trivia begins.  If the next call fails, the error shows the longest
run of dark characters or of digits at the head of what remains, and this is not empty. -/
theorem consumed_source_is_tokens_and_trivia (source : String) (calls : List Call)
    (fine : ¬ HasFailed ((Cursor.ofSource source).askAll calls).1) :
    IsConsumed source.toList
        (((Cursor.ofSource source).askAll calls).1.filterMap Answer.token?)
        ((Cursor.ofSource source).askAll calls).2.rest ∧
      ∀ call error, (((Cursor.ofSource source).askAll calls).2.ask call).1 = some (.error error) →
        error.item.Shows ((Cursor.ofSource source).askAll calls).2.rest := by
  rcases (course_askAll source calls).hasFailed_or_reached with ⟨failed, -⟩ | ⟨-, reached⟩
  · exact absurd failed fine
  refine ⟨reached.isConsumed, fun call error answer => ?_⟩
  rcases Cursor.ask_cases _ call with ⟨atEnd, asked⟩ | ⟨error', c', step, asked⟩ |
    ⟨token, c', -, asked⟩ <;> rw [asked] at answer
  · rw [Call.atEnd_eq_error answer]
    exact atEnd
  · obtain rfl : error' = error := by simpa using answer
    obtain ⟨-, read, -⟩ := Cursor.next?_eq_error_iff.1 step
    exact shows_of_readToken reached.splitTrivia?_eq_none read
  · cases answer

/-- A block comment of stars, a comment that quotes another, leading zeros, and a number sign at
which the next call fails. -/
theorem consumed_before_number_sign :
    ¬ HasFailed ((Cursor.ofSource "/***/let x// /*\n\t=007 #b c").askAll
        [.next, .nextToken, .next, .nextToken]).1 ∧
      IsConsumed "/***/let x// /*\n\t=007 #b c".toList
        [.keyword .«let», .identifier "x", .symbol '=', .integerConstant 7] "#b c".toList ∧
      (LexFault.unexpectedToken "#b").Shows "#b c".toList := by
  let tokens : List Token := [.keyword .«let», .identifier "x", .symbol '=', .integerConstant 7]
  have ran : (Cursor.ofSource "/***/let x// /*\n\t=007 #b c").askAll
      [.next, .nextToken, .next, .nextToken] = (yielded tokens, ⟨"#b c".toList, 2⟩) := by
    decide +kernel
  have fine : ¬ HasFailed ((Cursor.ofSource "/***/let x// /*\n\t=007 #b c").askAll
      [.next, .nextToken, .next, .nextToken]).1 := by
    rw [ran, ← List.append_nil (yielded tokens)]
    exact Course.not_hasFailed tokens 2 []
  have fails : ((⟨"#b c".toList, 2⟩ : Cursor).ask .next).1 =
      some (.error ⟨2, .unexpectedToken "#b"⟩) := by decide +kernel
  have whole := consumed_source_is_tokens_and_trivia _ _ fine
  rw [ran, Course.filterMap_yielded] at whole
  exact ⟨fine, whole.1, whole.2 .next _ fails⟩

end JackSyntax
