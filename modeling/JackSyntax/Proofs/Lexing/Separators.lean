/-
**Sources in any layout.**

Between two tokens of a source there may be any amount of white space and comments, and a comment
may hold anything that does not end it: quotes, keywords, the openings of other comments.  All of
that is passed over.  The white space that a separator begins with is needed, because a word must
not go on in the next one and a slash must not become the opening of a comment.

Main definitions:

* `IsSeparator` — white space and comments in any order;
* `IsLastSeparator` — the same at the end of a source, where a comment may be cut off by the end;
* `Printed` — a token in one of its spellings, with what stands behind it.

Main results:

* `PlainScanner.behindClose?_append` — a comment ends at its first `*/`;
* `PlainScanner.skip_separator`, `PlainScanner.skip_lastSeparator` — separators are dropped whole;
* `tokenize_of_layout` — **tokens are read back from any layout**.
-/

import JackSyntax.Proofs.Lexing.Spelling

set_option relaxedAutoImplicit false
set_option autoImplicit false

namespace JackSyntax

/-! ### Separators -/

/-- A separator is a row of white-space characters, comments up to a line feed, and comments that
are closed by the first `*/` behind their opening. -/
inductive IsSeparator : List Char → Prop
  | nil : IsSeparator []
  | blank {c : Char} {rest : List Char} :
      isWhiteSpace c = true → IsSeparator rest → IsSeparator (c :: rest)
  | line {comment rest : List Char} :
      '\n' ∉ comment → IsSeparator rest → IsSeparator ('/' :: '/' :: (comment ++ '\n' :: rest))
  | block {comment rest : List Char} :
      ¬ ['*', '/'] <:+: comment → IsSeparator rest →
      IsSeparator ('/' :: '*' :: (comment ++ '*' :: '/' :: rest))

/-- Behind the last token a separator may end in a comment without a line feed. -/
def IsLastSeparator (text : List Char) : Prop :=
  IsSeparator text ∨ ∃ before comment,
    text = before ++ '/' :: '/' :: comment ∧ IsSeparator before ∧ '\n' ∉ comment

namespace PlainScanner

/-- A comment ends at its first `*/`, even where stars stand before it. -/
theorem behindClose?_append {comment : List Char} (open_ : ¬ ['*', '/'] <:+: comment)
    (rest : List Char) : behindClose? (comment ++ '*' :: '/' :: rest) = some rest := by
  induction comment with
  | nil => rfl
  | cons c comment ih =>
      rw [List.cons_append, behindClose?, ih fun inside => open_ (List.infix_cons inside)]
      -- a star is followed by a slash neither inside the comment nor at its end
      rintro tail rfl closes
      cases comment with
      | nil => cases closes
      | cons d comment =>
          obtain rfl : d = '/' := (List.cons.inj closes).1
          exact open_ ⟨[], comment, rfl⟩

/-- A separator is dropped whole. -/
theorem skip_separator {text : List Char} (h : IsSeparator text) (rest : List Char) :
    skip (text ++ rest) = skip rest := by
  induction h with
  | nil => rfl
  | blank blank _ ih => exact (skip_of_some (dropOne?_of_isWhiteSpace blank _)).trans ih
  | @line comment behind noFeed _ ih =>
      have all : ∀ c ∈ comment, (c != '\n') = true := fun c inside =>
        bne_iff_ne.2 fun same => noFeed (same ▸ inside)
      obtain ⟨-, dropped⟩ := takeWhile_append_of_stops all
        (stops_cons.2 rfl : Stops (· != '\n') ('\n' :: (behind ++ rest)))
      have comment_ : dropOne? ('/' :: '/' :: (comment ++ '\n' :: (behind ++ rest))) =
          some ('\n' :: (behind ++ rest)) := congrArg some dropped
      have feed : dropOne? ('\n' :: (behind ++ rest)) = some (behind ++ rest) :=
        dropOne?_of_isWhiteSpace (by decide) _
      simpa using ((skip_of_some comment_).trans (skip_of_some feed)).trans ih
  | @block comment behind open_ _ ih =>
      have closed : dropOne? ('/' :: '*' :: (comment ++ '*' :: '/' :: (behind ++ rest))) =
          some (behind ++ rest) := behindClose?_append open_ _
      simpa using (skip_of_some closed).trans ih

/-- Nothing is left of a separator at the end of a source. -/
theorem skip_lastSeparator {text : List Char} (h : IsLastSeparator text) : skip text = [] := by
  rcases h with h | ⟨before, comment, rfl, h, noFeed⟩
  · have dropped := skip_separator h []
    rw [List.append_nil] at dropped
    exact dropped.trans (skip_of_none rfl)
  · have all : comment.dropWhile (· != '\n') = [] := by
      rw [List.dropWhile_eq_nil_iff]
      exact fun c inside => bne_iff_ne.2 fun same => noFeed (same ▸ inside)
    have cut : dropOne? ('/' :: '/' :: comment) = some [] := congrArg some all
    rw [skip_separator h, skip_of_some cut, skip_of_none rfl]

end PlainScanner

/-! ### Layouts -/

/-- A token in one of its spellings, with what stands behind it in a source: nothing, or something
that begins with white space. -/
structure Printed where
  token : Token
  spelling : List Char
  behind : List Char
  lexical : token.IsLexical
  spelled : token.IsSpelledAs spelling
  spaced : IsSpaced behind

/-- The text of a printed token. -/
def Printed.text (word : Printed) : List Char := word.spelling ++ word.behind

/-- What follows white space does not matter. -/
theorem IsSpaced.append {text : List Char} (spaced : IsSpaced text) (some : text ≠ [])
    (rest : List Char) : IsSpaced (text ++ rest) := by
  obtain ⟨c, others, rfl⟩ := List.exists_cons_of_ne_nil some
  exact isSpaced_cons.2 (isSpaced_cons.1 spaced)

namespace PlainScanner

/-- Printed tokens are read back one after the other. -/
theorem tokensFrom_printed (source : List Char) {words : List Printed}
    (between : ∀ word ∈ words.dropLast, word.behind ≠ [] ∧ IsSeparator word.behind)
    (last : ∀ word ∈ words.getLast?, IsLastSeparator word.behind) :
    tokensFrom source (words.flatMap Printed.text) = .ok (words.map Printed.token) := by
  induction words with
  | nil => exact tokensFrom_of_nil (skip_of_none rfl)
  | cons word words ih =>
      cases words with
      | nil =>
          have nothing := skip_lastSeparator (last word rfl)
          have read := tokensFrom_spelled source word.lexical word.spelled word.spaced
          rw [tokensFrom_of_nil nothing] at read
          rw [List.flatMap_singleton, Printed.text, read]
          rfl
      | cons next words =>
          obtain ⟨here, later⟩ := List.forall_mem_cons.1 between
          have behind := ih later last
          have spaced := word.spaced.append here.1 ((next :: words).flatMap Printed.text)
          have read := tokensFrom_spelled source word.lexical word.spelled spaced
          rw [tokensFrom_congr source (skip_separator here.2 _), behind] at read
          rw [List.flatMap_cons, Printed.text, List.append_assoc, read]
          rfl

end PlainScanner

/-- **Tokens are read back from any layout.**  A source may begin with any separator; behind every
token but the last stands a separator that begins with white space, and behind the last one nothing,
or such a separator, whose last comment may run to the end of the source.  The spellings and the
contents of the comments make no difference. -/
theorem tokenize_of_layout (first : List Char) (words : List Printed)
    (leading : IsSeparator first ∨ words = [] ∧ IsLastSeparator first)
    (between : ∀ word ∈ words.dropLast, word.behind ≠ [] ∧ IsSeparator word.behind)
    (last : ∀ word ∈ words.getLast?, IsLastSeparator word.behind) :
    tokenize (String.ofList (first ++ words.flatMap Printed.text)) =
      .ok (words.map Printed.token) := by
  rw [PlainScanner.tokenize_ofList]
  rcases leading with separator | ⟨rfl, cut⟩
  · rw [PlainScanner.tokensFrom_congr _ (PlainScanner.skip_separator separator _)]
    exact PlainScanner.tokensFrom_printed _ between last
  · have nothing := PlainScanner.skip_lastSeparator cut
    exact PlainScanner.tokensFrom_of_nil (by simpa using nothing)

/-- Stars and quotes in comments, comment openings in a string constant, leading zeros, a slash
between separators, an ideographic space, and a comment that the end of the source cuts off. -/
theorem tokenize_strange_layout :
    tokenize "/***/ // \"let\nclass /* it's \"A\" // **/\t/\u3000007 \"/* // if\" // \"cut" =
      .ok [.keyword .«class», .symbol '/', .integerConstant 7, .stringConstant "/* // if"] := by
  let starred := '/' :: '*' :: ("*".toList ++ '*' :: '/' :: ' ' :: '/' :: '/' ::
    (" \"let".toList ++ '\n' :: []))
  let quoted := ' ' :: '/' :: '*' :: (" it's \"A\" // *".toList ++ '*' :: '/' :: '\t' :: [])
  let remark := ' ' :: '/' :: '/' :: " \"cut".toList
  have first : IsSeparator starred :=
    .block (by decide +kernel) (.blank (by decide) (.line (by decide +kernel) .nil))
  have second : IsSeparator quoted :=
    .blank (by decide) (.block (by decide +kernel) (.blank (by decide) .nil))
  have wide : IsSeparator ['\u3000'] := .blank (by decide) .nil
  have blank : IsSeparator [' '] := .blank (by decide) .nil
  have cut : IsLastSeparator remark := Or.inr ⟨[' '], _, rfl, blank, by decide +kernel⟩
  have slash : (Token.symbol '/').IsLexical := (by decide : '/' ∈ symbols.toList)
  have text : (Token.stringConstant "/* // if").IsLexical :=
    List.all_eq_true.1 (by decide +kernel : "/* // if".toList.all isStringPart = true)
  let words : List Printed :=
    [⟨.keyword .«class», _, quoted, trivial, Token.isSpelledAs_written _, isSpaced_cons.2 rfl⟩,
      ⟨.symbol '/', _, ['\u3000'], slash, Token.isSpelledAs_written _, isSpaced_cons.2 rfl⟩,
      ⟨.integerConstant 7, _, [' '], trivial, Token.isSpelledAs_zeros 2 7, isSpaced_cons.2 rfl⟩,
      ⟨.stringConstant "/* // if", _, remark, text, Token.isSpelledAs_written _,
        isSpaced_cons.2 rfl⟩]
  have between : ∀ word ∈ words.dropLast, word.behind ≠ [] ∧ IsSeparator word.behind := by
    simp only [words, List.dropLast, List.forall_mem_cons]
    exact ⟨⟨List.cons_ne_nil _ _, second⟩, ⟨List.cons_ne_nil _ _, wide⟩,
      ⟨List.cons_ne_nil _ _, blank⟩, by simp⟩
  have last : ∀ word ∈ words.getLast?, IsLastSeparator word.behind := by
    rintro word ⟨⟩
    exact cut
  have read := tokenize_of_layout starred words (Or.inl first) between last
  have source : starred ++ words.flatMap Printed.text =
      "/***/ // \"let\nclass /* it's \"A\" // **/\t/\u3000007 \"/* // if\" // \"cut".toList := by
    simp only [words, List.flatMap_cons, List.flatMap_nil, Printed.text]
    decide +kernel
  rwa [source, String.ofList_toList] at read

end JackSyntax
