/-
**Asking a cursor for tokens.**

A cursor is asked for its next token by one of two calls, which differ only in what they answer at
the end: an error, or nothing.  However the two are mixed, the calls first yield the tokens of the
source, one each; then, if the source does not end there, one call yields its lexical error; and
from then on nothing changes any more.  This is so because a cursor never rests on trivia: some text
remains exactly if a token or a lexical error does.

Main definitions:

* `Call`, `Answer` — the two calls, and what they answer;
* `Cursor.ask`, `Cursor.askAll` — one call and a run of calls;
* `Course` — what a run of calls has come to.

Main results:

* `Cursor.ask_of_hasMore`, `Cursor.ask_of_end` — the calls behave alike until the end, and change
  nothing there;
* `course_ask` — what one more call comes to;
* `course_askAll` — **what a run of calls comes to**.
-/

import JackSyntax.Proofs.Lexing.Positions

set_option relaxedAutoImplicit false
set_option autoImplicit false

namespace JackSyntax

/-! ### The end of a text -/

/-- Nothing is found at the head of a text only if the text is empty. -/
theorem eq_nil_of_readToken {text : List Char} (h : readToken text = .error .endOfInput) :
    text = [] := by
  rcases readToken_cases text with ⟨empty, -⟩ | ⟨c, rest, rfl, ⟨-, answer⟩ | ⟨-, answer⟩ |
    ⟨rfl, answer⟩ | ⟨-, answer⟩ | answer⟩
  · exact empty
  all_goals rw [answer] at h
  · cases h
  · rw [PlainScanner.readInteger_eq] at h
    dsimp only at h
    split at h <;> cases h
  · rw [PlainScanner.readString_eq] at h
    split at h <;> cases h
  · cases h
  · cases h

/-! ### Calls and answers -/

/-- The two ways to ask for the next token. -/
inductive Call where
  /-- The next token; where nothing remains, an error. -/
  | nextToken
  /-- The next step of an iteration; where nothing remains, nothing. -/
  | next
  deriving DecidableEq

/-- What a call answers: a token, an error, or nothing. -/
abbrev Answer := Option (Except LexError Token)

/-- The token of an answer. -/
def Answer.token? : Answer → Option Token
  | some (.ok token) => some token
  | _ => none

/-- What a call answers where nothing remains. -/
def Call.atEnd (line : Nat) : Call → Answer
  | .nextToken => some (.error ⟨line, .endOfInput⟩)
  | .next => none

/-- A lexical error is among the answers.  That nothing remains is none. -/
def HasFailed (answers : List Answer) : Prop :=
  ∃ error : LexError, some (.error error) ∈ answers ∧ error.item ≠ .endOfInput

@[simp] theorem Call.token?_atEnd (line : Nat) (call : Call) :
    (call.atEnd line).token? = none := by
  cases call <;> rfl

theorem Call.atEnd_eq_error {line : Nat} {call : Call} {error : LexError}
    (h : call.atEnd line = some (.error error)) : error = ⟨line, .endOfInput⟩ := by
  cases call with
  | nextToken => exact (Except.error.inj (Option.some.inj h)).symm
  | next => cases h

namespace Cursor

/-- The answer of a call, and the cursor behind it. -/
def ask (c : Cursor) : Call → Answer × Cursor
  | .nextToken => (some c.nextToken.1, c.nextToken.2)
  | .next => c.next?

/-- The answers of calls one after the other, and the cursor behind the last. -/
def askAll (c : Cursor) : List Call → List Answer × Cursor
  | [] => ([], c)
  | call :: calls =>
      ((c.ask call).1 :: ((c.ask call).2.askAll calls).1, ((c.ask call).2.askAll calls).2)

variable {c c' : Cursor}

theorem askAll_append (c : Cursor) (first second : List Call) :
    c.askAll (first ++ second) =
      ((c.askAll first).1 ++ ((c.askAll first).2.askAll second).1,
        ((c.askAll first).2.askAll second).2) := by
  induction first generalizing c with
  | nil => rfl
  | cons call first ih => simp only [List.cons_append, askAll, ih]

/-- While some text remains, both calls behave alike. -/
theorem ask_of_hasMore (more : c.hasMore = true) (call : Call) : c.ask call = c.next? := by
  cases call with
  | nextToken => rw [next?, if_pos more, ask]
  | next => rfl

/-- Where nothing remains, no call changes anything. -/
theorem ask_of_end (atEnd : c.rest = []) (call : Call) :
    c.ask call = (call.atEnd c.line, c) := by
  obtain ⟨rest, line⟩ := c
  obtain rfl : rest = [] := atEnd
  cases call <;> rfl

theorem askAll_of_end (atEnd : c.rest = []) (calls : List Call) :
    c.askAll calls = (calls.map (Call.atEnd c.line), c) := by
  induction calls with
  | nil => rfl
  | cons call calls ih => simp only [askAll, ask_of_end atEnd call, ih, List.map_cons]

/-- A call finds that nothing remains, or yields a lexical error, or yields a token. -/
theorem ask_cases (c : Cursor) (call : Call) :
    c.rest = [] ∧ c.ask call = (call.atEnd c.line, c) ∨
      (∃ error c', c.next? = (some (.error error), c') ∧ c.ask call = (some (.error error), c')) ∨
      ∃ token c', c.next? = (some (.ok token), c') ∧ c.ask call = (some (.ok token), c') := by
  cases more : c.hasMore with
  | false =>
      have atEnd := hasMore_eq_false.1 more
      exact Or.inl ⟨atEnd, ask_of_end atEnd call⟩
  | true =>
      have alike := ask_of_hasMore more call
      rcases c.scanFrom_cases with ⟨atEnd, -⟩ | ⟨error, c', step, -, -⟩ | ⟨token, c', step, -⟩
      · rw [hasMore_eq_false.2 atEnd] at more
        cases more
      · exact Or.inr (Or.inl ⟨error, c', step, alike.trans step⟩)
      · exact Or.inr (Or.inr ⟨token, c', step, alike.trans step⟩)

/-- That nothing remains is no error of the iteration. -/
theorem item_ne_endOfInput {error : LexError} (h : c.next? = (some (.error error), c')) :
    error.item ≠ .endOfInput := by
  obtain ⟨some, read, -, -⟩ := next?_eq_error_iff.1 h
  intro same
  rw [same] at read
  exact some (eq_nil_of_readToken read)

end Cursor

/-! ### Runs of calls -/

/-- The answers that yield tokens. -/
def yielded (tokens : List Token) : List Answer := tokens.map fun token => some (.ok token)

/-- What a run of calls on the cursor of a source has come to: as many tokens as there were calls,
or fewer and then the answers of the end, or between the two the lexical error of the source. -/
inductive Course (source : String) : List Call → List Answer → Cursor → Prop
  | running {calls : List Call} {tokens : List Token} {c : Cursor} :
      Reached source tokens c → calls.length = tokens.length →
      Course source calls (yielded tokens) c
  | ended {calls late : List Call} {tokens : List Token} {c : Cursor} :
      Reached source tokens c → calls.length = tokens.length → c.rest = [] →
      Course source (calls ++ late) (yielded tokens ++ late.map (Call.atEnd c.line)) c
  | failed {calls late : List Call} {call : Call} {tokens : List Token} {c c' : Cursor}
      {error : LexError} :
      Reached source tokens c → calls.length = tokens.length →
      c.next? = (some (.error error), c') →
      Course source (calls ++ call :: late)
        (yielded tokens ++ some (.error error) :: late.map (Call.atEnd c'.line)) c'

/-- A lexical error leaves nothing behind, and the line as it is. -/
theorem Cursor.eq_of_next?_error {c c' : Cursor} {error : LexError}
    (h : c.next? = (some (.error error), c')) : c' = ⟨[], error.line⟩ := by
  obtain ⟨-, -, line, rfl⟩ := next?_eq_error_iff.1 h
  rw [line]

/-- What one more call comes to. -/
theorem course_ask {source : String} {calls : List Call} {answers : List Answer} {c : Cursor}
    (h : Course source calls answers c) (call : Call) :
    Course source (calls ++ [call]) (answers ++ [(c.ask call).1]) (c.ask call).2 := by
  cases h with
  | @running _ tokens _ reached length =>
      rcases c.ask_cases call with ⟨atEnd, asked⟩ | ⟨error, c', step, asked⟩ |
        ⟨token, c', step, asked⟩
      · rw [asked]
        exact .ended reached length atEnd
      · rw [asked]
        exact .failed reached length step
      · have grown : yielded tokens ++ [some (.ok token)] = yielded (tokens ++ [token]) := by
          simp [yielded]
        rw [asked, grown]
        exact .running (reached.next step) (by simp [length])
  | @ended before late tokens _ reached length atEnd =>
      have more : Course source (before ++ (late ++ [call]))
          (yielded tokens ++ (late ++ [call]).map (Call.atEnd c.line)) c :=
        .ended reached length atEnd
      rw [Cursor.ask_of_end atEnd]
      simpa [List.append_assoc] using more
  | @failed before late first tokens _ _ error reached length step =>
      have more : Course source (before ++ first :: (late ++ [call]))
          (yielded tokens ++ some (.error error) :: (late ++ [call]).map (Call.atEnd c.line)) c :=
        .failed reached length step
      have atEnd : c.rest = [] := by rw [Cursor.eq_of_next?_error step]
      rw [Cursor.ask_of_end atEnd]
      simpa [List.append_assoc] using more

/-- **What a run of calls comes to**, however the two calls are mixed. -/
theorem course_askAll (source : String) (calls : List Call) :
    Course source calls ((Cursor.ofSource source).askAll calls).1
      ((Cursor.ofSource source).askAll calls).2 := by
  induction calls using List.reverseRecOn with
  | nil => exact .running .start rfl
  | append_singleton calls call ih =>
      rw [Cursor.askAll_append]
      exact course_ask ih call

namespace Course

variable {source : String} {calls : List Call} {answers : List Answer} {c : Cursor}

theorem filterMap_yielded (tokens : List Token) :
    (yielded tokens).filterMap Answer.token? = tokens := by
  simp [yielded, List.filterMap_map, Function.comp_def, Answer.token?]

theorem filterMap_atEnd (line : Nat) (late : List Call) :
    (late.map (Call.atEnd line)).filterMap Answer.token? = [] := by
  simp [List.filterMap_map]

/-- No answer that yields a token is an error. -/
theorem error_not_mem_yielded {error : LexError} (tokens : List Token) :
    some (.error error) ∉ yielded tokens := by
  simp [yielded]

/-- Behind all tokens, the answers of the end are no lexical errors. -/
theorem not_hasFailed (tokens : List Token) (line : Nat) (late : List Call) :
    ¬ HasFailed (yielded tokens ++ late.map (Call.atEnd line)) := by
  rintro ⟨error, inside, lexical⟩
  rcases List.mem_append.1 inside with inside | inside
  · exact error_not_mem_yielded tokens inside
  · obtain ⟨call, -, same⟩ := List.mem_map.1 inside
    rw [Call.atEnd_eq_error same] at lexical
    exact lexical rfl

/-- The tokens that are yielded are the first ones of the source. -/
theorem filterMap_eq_take (h : Course source calls answers c) :
    answers.filterMap Answer.token? =
      ((scan source).tokens.map Located.item).take calls.length := by
  cases h with
  | running reached length =>
      obtain ⟨passed, rfl, whole⟩ := reached.scan_eq
      rw [filterMap_yielded, whole, Scan.tokens_prepend, List.map_append, length, List.take_left]
  | ended reached length atEnd =>
      -- nothing remains, so the source has no further tokens
      obtain ⟨passed, rfl, whole⟩ := reached.scan_eq
      rw [Cursor.scanFrom_of_nil atEnd] at whole
      rw [List.filterMap_append, filterMap_yielded, filterMap_atEnd, List.append_nil, whole,
        List.take_of_length_le (by simp [length])]
      simp [Scan.prepend]
  | failed reached length step =>
      -- the lexical error stands where the next token would be
      obtain ⟨passed, rfl, whole⟩ := reached.scan_eq
      obtain ⟨some, read, -, -⟩ := Cursor.next?_eq_error_iff.1 step
      rw [Cursor.scanFrom_of_error some read] at whole
      rw [List.filterMap_append, filterMap_yielded, List.filterMap_cons_none rfl, filterMap_atEnd,
        List.append_nil, whole, List.take_of_length_le (by simp [length])]
      simp [Scan.prepend]

/-- Either a lexical error has been yielded and nothing remains, or the cursor is one that is
reached by reading tokens, and stands behind those that were yielded. -/
theorem hasFailed_or_reached (h : Course source calls answers c) :
    HasFailed answers ∧ c.rest = [] ∨
      ¬ HasFailed answers ∧ Reached source (answers.filterMap Answer.token?) c := by
  cases h with
  | @running _ tokens _ reached length =>
      have fine := not_hasFailed tokens c.line []
      rw [List.map_nil, List.append_nil] at fine
      exact Or.inr ⟨fine, (filterMap_yielded _).symm ▸ reached⟩
  | ended reached length atEnd =>
      refine Or.inr ⟨not_hasFailed _ _ _, ?_⟩
      rw [List.filterMap_append, filterMap_yielded, filterMap_atEnd, List.append_nil]
      exact reached
  | failed reached length step =>
      refine Or.inl ⟨⟨_, ?_, Cursor.item_ne_endOfInput step⟩, ?_⟩
      · exact List.mem_append_right _ List.mem_cons_self
      · rw [Cursor.eq_of_next?_error step]

/-- Once a call has yielded no token, nothing remains. -/
theorem rest_eq_nil (h : Course source calls answers c) {answer : Answer}
    (inside : answer ∈ answers) (none : answer.token? = none) : c.rest = [] := by
  cases h with
  | running reached length =>
      obtain ⟨token, -, rfl⟩ := List.mem_map.1 inside
      cases none
  | ended reached length atEnd => exact atEnd
  | failed reached length step => rw [Cursor.eq_of_next?_error step]

/-- All errors have the line on which the cursor stays, and a lexical one among them is that of the
source. -/
theorem error_of_mem (h : Course source calls answers c) {error : LexError}
    (inside : some (.error error) ∈ answers) :
    error.line = c.line ∧ (error.item ≠ .endOfInput → tokenize source = .error error) := by
  cases h with
  | running => exact absurd inside (error_not_mem_yielded _)
  | ended reached length atEnd =>
      rcases List.mem_append.1 inside with inside | inside
      · exact absurd inside (error_not_mem_yielded _)
      · obtain ⟨call, -, same⟩ := List.mem_map.1 inside
        rw [Call.atEnd_eq_error same]
        exact ⟨rfl, fun lexical => absurd rfl lexical⟩
  | @failed _ _ _ _ before _ first reached length step =>
      have line : first.line = c.line := by rw [Cursor.eq_of_next?_error step]
      rcases List.mem_append.1 inside with inside | inside
      · exact absurd inside (error_not_mem_yielded _)
      · rcases List.mem_cons.1 inside with same | inside
        · obtain rfl : error = first := by simpa using same
          obtain ⟨passed, -, whole⟩ := reached.scan_eq
          obtain ⟨some, read, before, -⟩ := Cursor.next?_eq_error_iff.1 step
          rw [Cursor.scanFrom_of_error some read, ← before] at whole
          exact ⟨line, fun _ => by rw [tokenize, whole, Scan.result_prepend]; rfl⟩
        · obtain ⟨call, -, same⟩ := List.mem_map.1 inside
          rw [Call.atEnd_eq_error same]
          exact ⟨rfl, fun lexical => absurd rfl lexical⟩

end Course

end JackSyntax
