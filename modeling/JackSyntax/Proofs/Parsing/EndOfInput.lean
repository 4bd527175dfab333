/-
**The end of a source is told in time.**

Whether a cursor has more tokens is a test on the text that remains, and nothing is read for it.
It can be relied on: a call that follows it never finds that nothing remains.  Whoever asks before
each call, as the scan, the token listing and the parser do, never meets the error of a call behind
the end.

Main definitions:

* `IsAnswered` — how a run of calls on the cursor of a source is answered.

Main results:

* `ending_ne_endOfInput` — no scan is cut off by the error of the end;
* `calls_yield_tokens_until_end` — **any run of calls keeps to the protocol**.
-/

import JackSyntax.Markup.Listing
import JackSyntax.Proofs.Lexing.Calls
import JackSyntax.Proofs.Parsing.TokensOnly

set_option relaxedAutoImplicit false
set_option autoImplicit false

namespace JackSyntax

/-- How a run of calls on the cursor of a source is answered, and in what state it leaves the
cursor. -/
structure IsAnswered (source : String) (calls : List Call) (answers : List Answer) (c : Cursor) :
    Prop where
  /-- The calls that succeed yield the tokens of the source in their order, one each. -/
  tokens : answers.filterMap Answer.token? = (lexedTokens source).take calls.length
  /-- While some text remains, both calls behave alike. -/
  alike : c.hasMore = true → c.ask .next = c.ask .nextToken
  /-- There is nothing more exactly if a lexical error has been yielded or no text remains. -/
  exhausted_iff : c.hasMore = false ↔ HasFailed answers ∨ c.rest = []
  /-- Before a lexical error, what remains is the end of the source, and no trivia begins it. -/
  remaining : ¬ HasFailed answers → c.StandsIn source.toList ∧ splitTrivia? c.rest = none
  /-- If there is nothing more without a lexical error, all tokens of the source were yielded. -/
  complete : ¬ HasFailed answers → c.hasMore = false →
    tokenize source = .ok (answers.filterMap Answer.token?)
  /-- Asking for a token finds the end exactly if there is nothing more. -/
  endOfInput_iff :
    (∃ line, (c.ask .nextToken).1 = some (.error ⟨line, .endOfInput⟩)) ↔ c.hasMore = false
  /-- When a call has yielded no token, there is nothing more. -/
  exhausted : ∀ answer ∈ answers, answer.token? = none → c.hasMore = false
  /-- Every error has the line on which the cursor stays, and a lexical one is that of the source. -/
  errors : ∀ error, some (.error error) ∈ answers →
    error.line = c.line ∧ (error.item ≠ .endOfInput → tokenize source = .error error)
  /-- When there is nothing more, no further call changes the cursor: an iteration yields nothing,
  and asking for a token finds the end on the same line. -/
  stays : c.hasMore = false → ∀ later, c.askAll later = (later.map (Call.atEnd c.line), c)

/-- What a run of calls comes to is how it has to be answered. -/
theorem Course.isAnswered {source : String} {calls : List Call} {answers : List Answer} {c : Cursor}
    (h : Course source calls answers c) : IsAnswered source calls answers c where
  tokens := h.filterMap_eq_take
  alike more := by rw [Cursor.ask_of_hasMore more, Cursor.ask_of_hasMore more]
  exhausted_iff := by
    rw [Cursor.hasMore_eq_false]
    constructor
    · exact Or.inr
    · rintro (failed | atEnd)
      · rcases h.hasFailed_or_reached with ⟨-, atEnd⟩ | ⟨fine, -⟩
        · exact atEnd
        · exact absurd failed fine
      · exact atEnd
  remaining fine := by
    rcases h.hasFailed_or_reached with ⟨failed, -⟩ | ⟨-, reached⟩
    · exact absurd failed fine
    · exact ⟨reached.standsIn, reached.splitTrivia?_eq_none⟩
  complete fine none := by
    rcases h.hasFailed_or_reached with ⟨failed, -⟩ | ⟨-, reached⟩
    · exact absurd failed fine
    · obtain ⟨passed, same, whole⟩ := reached.scan_eq
      rw [Cursor.scanFrom_of_nil (Cursor.hasMore_eq_false.1 none)] at whole
      refine (tokenize_eq_ok_iff ..).2 ⟨⟨c.line, by rw [whole]; rfl⟩, ?_⟩
      rw [whole, ← same]
      simp
  endOfInput_iff := by
    constructor
    · rintro ⟨line, found⟩
      rcases c.ask_cases .nextToken with ⟨atEnd, -⟩ | ⟨error, c', step, asked⟩ |
        ⟨token, c', -, asked⟩
      · exact Cursor.hasMore_eq_false.2 atEnd
      · obtain rfl : error = ⟨line, .endOfInput⟩ := by simpa [asked] using found
        exact absurd rfl (Cursor.item_ne_endOfInput step)
      · rw [asked] at found
        cases found
    · intro none
      rw [Cursor.ask_of_end (Cursor.hasMore_eq_false.1 none)]
      exact ⟨c.line, rfl⟩
  exhausted answer inside none := Cursor.hasMore_eq_false.2 (h.rest_eq_nil inside none)
  errors error := h.error_of_mem
  stays none := Cursor.askAll_of_end (Cursor.hasMore_eq_false.1 none)

/-- No scan is cut off by the error of the end. -/
theorem ending_ne_endOfInput (source : String) (line : Nat) :
    (scan source).ending ≠ .failed ⟨line, .endOfInput⟩ := by
  intro ending
  obtain ⟨c, reached, noTokens, same⟩ := exists_reached_ending source
  obtain ⟨c', step⟩ := Cursor.next?_of_failed noTokens (same.trans ending)
  exact Cursor.item_ne_endOfInput step rfl

/-- **Any run of calls keeps to the protocol**, however the two calls are mixed: the tokens of the
source, then its lexical error if it has one, then the answers of the end.  So neither the tokens of
a source nor its token listing nor its syntax tree is ever missing because the end was overrun. -/
theorem calls_yield_tokens_until_end (source : String) :
    (∀ calls, IsAnswered source calls ((Cursor.ofSource source).askAll calls).1
      ((Cursor.ofSource source).askAll calls).2) ∧
    ∀ line, tokenize source ≠ .error ⟨line, .endOfInput⟩ ∧
      tokenListing source ≠ .error ⟨line, .endOfInput⟩ ∧
      parse source ≠ .error ⟨line, .lexical .endOfInput⟩ := by
  have tokens (line : Nat) : tokenize source ≠ .error ⟨line, .endOfInput⟩ := fun failed =>
    ending_ne_endOfInput source line ((tokenize_eq_error_iff ..).1 failed)
  refine ⟨fun calls => (course_askAll source calls).isAnswered, fun line => ⟨tokens line, ?_, ?_⟩⟩
  · intro failed
    rw [tokenListing] at failed
    cases answer : tokenize source with
    | ok tokens =>
        rw [answer] at failed
        cases failed
    | error error =>
        rw [answer] at failed
        cases failed
        exact tokens line answer
  · intro failed
    obtain ⟨⟨fault, ahead⟩, read, same⟩ := (parse_eq_error_iff ..).1 failed
    cases same
    exact ending_ne_endOfInput source _ (Scan.ending_of_lexical read).1

/-- Behind a dollar sign nothing is read, whichever calls are made. -/
example : (Cursor.ofSource "x\n$ y").askAll [.nextToken, .next, .next, .nextToken, .next] =
    ([some (.ok (.identifier "x")), some (.error ⟨2, .unexpectedToken "$"⟩), none,
      some (.error ⟨2, .endOfInput⟩), none], ⟨[], 2⟩) := by
  decide +kernel

end JackSyntax
