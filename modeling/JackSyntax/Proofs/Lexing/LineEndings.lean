/-
**Line endings make no difference.**

A source may end its lines with a line feed alone or with a carriage return and a line feed.  When
carriage returns are put in front of all line feeds, the cursors of the two sources drift apart, but
wherever one of them stands, the other stands in front of the same text with carriage returns in it.
A carriage return is white space and no part of a word, a number or a symbol; it can only come to
stand in a comment, in white space, or behind a string constant that its line does not close.

Main definitions:

* `insertReturns`, `withReturns` — a text with a carriage return in front of every line feed.

Main results:

* `PlainScanner.skip_insertReturns`, `readToken_insertReturns` — trivia and tokens are found as
  before, and the carriage returns remain in what follows;
* `scan_withReturns` — the tokens stay the same, and so do their lines;
* `line_endings_make_no_difference` — **nothing that is made of a source changes**.
-/

import JackSyntax.Markup.Listing
import JackSyntax.Parse
import JackSyntax.Proofs.Lexing.PlainScanner

set_option relaxedAutoImplicit false
set_option autoImplicit false

namespace JackSyntax

/-! ### Carriage returns -/

/-- A text with a carriage return in front of every line feed, even where one stands there
already. -/
def insertReturns (text : List Char) : List Char :=
  text.flatMap fun c => if c = '\n' then ['\r', '\n'] else [c]

/-- A source with a carriage return in front of every line feed. -/
def withReturns (source : String) : String := String.ofList (insertReturns source.toList)

@[simp] theorem insertReturns_nil : insertReturns [] = [] := rfl

@[simp] theorem insertReturns_append (first second : List Char) :
    insertReturns (first ++ second) = insertReturns first ++ insertReturns second := by
  simp [insertReturns]

theorem insertReturns_feed (text : List Char) :
    insertReturns ('\n' :: text) = '\r' :: '\n' :: insertReturns text := rfl

theorem insertReturns_cons {c : Char} (other : c ≠ '\n') (text : List Char) :
    insertReturns (c :: text) = c :: insertReturns text := by
  simp [insertReturns, other]

theorem insertReturns_eq_nil_iff {text : List Char} : insertReturns text = [] ↔ text = [] := by
  cases text with
  | nil => simp
  | cons c text =>
      by_cases feed : c = '\n'
      · simp [feed, insertReturns_feed]
      · simp [insertReturns_cons feed]

theorem insertReturns_of_not_mem {text : List Char} (h : '\n' ∉ text) :
    insertReturns text = text := by
  induction text with
  | nil => rfl
  | cons c text ih =>
      obtain ⟨other, later⟩ := List.ne_and_not_mem_of_not_mem_cons h
      rw [insertReturns_cons other.symm, ih later]

/-- Carriage returns do not count as line feeds. -/
@[simp] theorem count_insertReturns (text : List Char) :
    (insertReturns text).count '\n' = text.count '\n' := by
  induction text with
  | nil => rfl
  | cons c text ih =>
      by_cases feed : c = '\n'
      · subst feed
        simp [insertReturns_feed, ih]
      · rw [insertReturns_cons feed, List.count_cons, List.count_cons, ih]

section

variable {p : Char → Bool}

/-- A run that no line feed belongs to stays as it is. -/
theorem insertReturns_eq_append (feed : p '\n' = false) (text : List Char) :
    insertReturns text = text.takeWhile p ++ insertReturns (text.dropWhile p) := by
  have noFeed : '\n' ∉ text.takeWhile p := by
    intro inside
    have accepted := List.mem_takeWhile_imp inside
    rw [feed] at accepted
    cases accepted
  rw [← insertReturns_of_not_mem noFeed, ← insertReturns_append,
    List.takeWhile_append_dropWhile]

/-- A run to which neither a line feed nor a carriage return belongs ends where it did. -/
theorem takeWhile_insertReturns (feed : p '\n' = false) (ret : p '\r' = false) (text : List Char) :
    (insertReturns text).takeWhile p = text.takeWhile p ∧
      (insertReturns text).dropWhile p = insertReturns (text.dropWhile p) := by
  have stops : Stops p (insertReturns (text.dropWhile p)) := by
    have before := stops_dropWhile p text
    cases behind : text.dropWhile p with
    | nil => exact stops_nil p
    | cons c rest =>
        by_cases same : c = '\n'
        · subst same
          exact stops_cons.2 ret
        · rw [insertReturns_cons same]
          exact stops_cons.2 (stops_cons.1 (behind ▸ before))
  rw [insertReturns_eq_append feed]
  exact takeWhile_append_of_stops (fun c => List.mem_takeWhile_imp) stops

end

/-! ### Trivia -/

namespace PlainScanner

/-- A comment ends at the same `*/`. -/
theorem behindClose?_insertReturns (text : List Char) :
    behindClose? (insertReturns text) = (behindClose? text).map insertReturns := by
  fun_induction behindClose? text with
  | case1 rest => rfl
  | case2 c rest open_ ih =>
      by_cases feed : c = '\n'
      · subst feed
        rw [insertReturns_feed, behindClose?, behindClose?, ih]
        · rintro _ ⟨⟩
        · rintro _ ⟨⟩
      · rw [insertReturns_cons feed, behindClose?, ih]
        -- a slash that stands behind a star stood there before
        rintro tail rfl closes
        cases rest with
        | nil => cases closes
        | cons d rest =>
            by_cases same : d = '\n'
            · subst same
              cases closes
            · rw [insertReturns_cons same] at closes
              obtain rfl : d = '/' := (List.cons.inj closes).1
              exact open_ rest rfl rfl
  | case3 => rfl

/-- A carriage return is dropped. -/
theorem skip_return (text : List Char) : skip ('\r' :: text) = skip text :=
  skip_of_some (dropOne?_of_isWhiteSpace (by decide) text)

/-- Behind a comment up to its line feed the same is left. -/
theorem skip_dropWhile_insertReturns (text : List Char) :
    skip ((insertReturns text).dropWhile (· != '\n')) =
      skip (insertReturns (text.dropWhile (· != '\n'))) := by
  have all : ∀ c ∈ text.takeWhile (· != '\n'), (c != '\n') = true :=
    fun c => List.mem_takeWhile_imp
  rw [insertReturns_eq_append (p := (· != '\n')) rfl text, List.dropWhile_append_of_pos all]
  have before := stops_dropWhile (· != '\n') text
  cases behind : text.dropWhile (· != '\n') with
  | nil => rfl
  | cons c rest =>
      rw [behind, stops_cons] at before
      obtain rfl : c = '\n' := by simpa using before
      exact (skip_return _).symm

/-- Where a piece of trivia can be dropped, it can be dropped with carriage returns in it. -/
theorem skip_insertReturns_of_some {text rest : List Char} (h : dropOne? text = some rest) :
    skip (insertReturns text) = skip (insertReturns rest) := by
  unfold dropOne? at h
  split at h
  · rename_i comment
    obtain rfl := Option.some.inj h
    exact (skip_of_some rfl).trans (skip_dropWhile_insertReturns comment)
  · rename_i comment
    refine skip_of_some ?_
    exact (behindClose?_insertReturns comment).trans (congrArg _ h)
  · rename_i c behind _ _
    split at h
    · rename_i blank
      obtain rfl := Option.some.inj h
      by_cases feed : c = '\n'
      · subst feed
        exact (skip_return _).trans (skip_of_some (dropOne?_of_isWhiteSpace blank _))
      · rw [insertReturns_cons feed]
        exact skip_of_some (dropOne?_of_isWhiteSpace blank _)
    · cases h
  · cases h

/-- Where no trivia begins, none begins with carriage returns in the text. -/
theorem dropOne?_insertReturns_of_none {text : List Char} (h : dropOne? text = none) :
    dropOne? (insertReturns text) = none := by
  unfold dropOne? at h
  split at h
  · cases h
  · rename_i comment
    exact (behindClose?_insertReturns comment).trans (congrArg _ h)
  · rename_i c rest noLine noBlock
    split at h
    · cases h
    · rename_i dark
      have feed : c ≠ '\n' := by
        rintro rfl
        exact dark (by decide)
      rw [insertReturns_cons feed]
      refine dropOne?_eq_none (Bool.eq_false_iff.2 dark) fun slash d ahead => ?_
      subst slash
      cases rest with
      | nil => cases ahead
      | cons e rest =>
          by_cases same : e = '\n'
          · subst same
            obtain rfl : '\r' = d := Option.some.inj ahead
            decide
          · rw [insertReturns_cons same] at ahead
            obtain rfl : e = d := Option.some.inj ahead
            exact ⟨fun slash => noLine rest rfl (slash ▸ rfl),
              fun star => noBlock rest rfl (star ▸ rfl)⟩
  · rfl

/-- What is left behind trivia is the same text with carriage returns in it. -/
theorem skip_insertReturns (text : List Char) :
    skip (insertReturns text) = insertReturns (skip text) := by
  fun_induction skip text with
  | case1 text rest h ih => rw [skip_insertReturns_of_some h, ih]
  | case2 text h => exact skip_of_none (dropOne?_insertReturns_of_none h)

end PlainScanner

/-! ### Tokens -/

/-- The fragment that an error shows ends at a line end of either kind. -/
theorem unexpectedToken_insertReturns (text : List Char) :
    unexpectedToken (insertReturns text) = unexpectedToken text := by
  rw [unexpectedToken, (takeWhile_insertReturns (by decide) (by decide) text).1, unexpectedToken]

theorem readInteger_insertReturns (text : List Char) :
    readInteger (insertReturns text) = (readInteger text).map (Prod.map id insertReturns) := by
  obtain ⟨taken, dropped⟩ := takeWhile_insertReturns (p := Char.isDigit) rfl rfl text
  simp only [readInteger, taken, dropped]
  split <;> rfl

theorem readWord_insertReturns (text : List Char) :
    readWord (insertReturns text) = Prod.map id insertReturns (readWord text) := by
  obtain ⟨takenWord, droppedWord⟩ :=
    takeWhile_insertReturns (p := isWordCharacter) (by decide +kernel) (by decide +kernel) text
  obtain ⟨taken, dropped⟩ := takeWhile_insertReturns (p := isIdentifierPart) rfl rfl text
  simp only [readWord, takenWord, droppedWord, taken, dropped]
  split <;> rfl

/-- A string constant that its line closes holds no carriage return that was not there; one that its
line does not close has the carriage return behind it. -/
theorem readString_insertReturns (text : List Char) :
    readString (insertReturns text) = (readString text).map (Prod.map id insertReturns) := by
  have parts : ∀ c ∈ text.takeWhile isStringPart, isStringPart c = true :=
    fun c => List.mem_takeWhile_imp
  have split := insertReturns_eq_append (p := isStringPart) rfl text
  have unclosed : unexpectedToken ('"' :: insertReturns text) = unexpectedToken ('"' :: text) := by
    rw [← unexpectedToken_insertReturns ('"' :: text), insertReturns_cons (by decide)]
  have stops := stops_dropWhile isStringPart text
  cases behind : text.dropWhile isStringPart with
  | nil =>
      rw [behind, insertReturns_nil, List.append_nil] at split
      have none : (insertReturns text).dropWhile isStringPart = [] := by
        rw [split, List.dropWhile_eq_nil_iff]
        exact parts
      simp only [readString, none, behind, unclosed]
      rfl
  | cons c rest =>
      rw [behind] at split stops
      by_cases quote : c = '"'
      · subst quote
        rw [insertReturns_cons (by decide)] at split
        obtain ⟨taken, dropped⟩ := takeWhile_append_of_stops parts
          (stops_cons.2 rfl : Stops isStringPart ('"' :: insertReturns rest))
        rw [← split] at taken dropped
        simp only [readString, dropped, behind, taken]
        rfl
      · obtain rfl : c = '\n' := by simpa [isStringPart, quote] using stops_cons.1 stops
        have dropped : (insertReturns text).dropWhile isStringPart =
            '\n' :: insertReturns rest := by
          rw [split, List.dropWhile_append_of_pos parts]
          rfl
        simp only [readString, dropped, behind, unclosed]
        rfl

/-- The same token is read, and the carriage returns remain in what follows it. -/
theorem readToken_insertReturns (text : List Char) :
    readToken (insertReturns text) = (readToken text).map (Prod.map id insertReturns) := by
  cases text with
  | nil => rfl
  | cons c rest =>
      have unread := unexpectedToken_insertReturns (c :: rest)
      by_cases feed : c = '\n'
      · -- no token begins with a line end of either kind
        subst feed
        exact unread
      · have integer := readInteger_insertReturns (c :: rest)
        have word := readWord_insertReturns (c :: rest)
        rw [insertReturns_cons feed] at unread integer word ⊢
        simp only [readToken_cons]
        split_ifs with listed digit quote start
        · rfl
        · exact integer
        · exact readString_insertReturns rest
        · exact congrArg Except.ok word
        · exact unread

/-! ### Scans -/

namespace Cursor

/-- A cursor in front of the same text with a carriage return before every line feed. -/
def withReturns (c : Cursor) : Cursor := ⟨insertReturns c.rest, c.line⟩

theorem skipTrivia_withReturns (c : Cursor) :
    c.withReturns.skipTrivia = c.skipTrivia.withReturns := by
  have rest : c.withReturns.skipTrivia.rest = insertReturns c.skipTrivia.rest := by
    rw [PlainScanner.rest_skipTrivia, PlainScanner.rest_skipTrivia]
    exact PlainScanner.skip_insertReturns c.rest
  -- both cursors have passed the same number of line feeds
  have line := (line_skipTrivia c.withReturns).trans
    (congrArg (c.line + ·) (count_insertReturns c.rest))
  rw [rest, count_insertReturns, ← line_skipTrivia c] at line
  have line' := Nat.add_right_cancel line
  generalize c.withReturns.skipTrivia = first at rest line' ⊢
  cases first
  exact congrArg₂ Cursor.mk rest line'

/-- The scan from a cursor does not depend on the kind of the line ends. -/
theorem scanFrom_withReturns (c : Cursor) : c.withReturns.scanFrom [] = c.scanFrom [] := by
  induction length : c.rest.length using Nat.strongRecOn generalizing c with
  | ind n ih =>
      have read := readToken_insertReturns c.rest
      cases answer : readToken c.rest with
      | error fault =>
          rw [answer] at read
          by_cases empty : c.rest = []
          · have empty' : c.withReturns.rest = [] := insertReturns_eq_nil_iff.2 empty
            rw [scanFrom_of_nil empty, scanFrom_of_nil empty']
            rfl
          · have some : c.withReturns.rest ≠ [] := insertReturns_eq_nil_iff.not.2 empty
            rw [scanFrom_of_error empty answer, scanFrom_of_error some read]
            rfl
      | ok pair =>
          obtain ⟨token, rest⟩ := pair
          rw [answer] at read
          have shorter := Nat.lt_of_le_of_lt (skipTrivia_length_le ⟨rest, c.line⟩)
            (readToken_length_lt answer)
          rw [length] at shorter
          have later := ih _ shorter (skipTrivia ⟨rest, c.line⟩) rfl
          rw [← skipTrivia_withReturns] at later
          rw [scanFrom_of_ok answer, scanFrom_of_ok (c := c.withReturns) read, ← later]
          rfl

end Cursor

/-- A source has the same tokens on the same lines, and the same ending, with either kind of line
ends. -/
theorem scan_withReturns (source : String) : scan (withReturns source) = scan source := by
  have start := Cursor.skipTrivia_withReturns ⟨source.toList, 1⟩
  have same := Cursor.scanFrom_withReturns (Cursor.skipTrivia ⟨source.toList, 1⟩)
  rw [← start] at same
  rw [scan, Cursor.ofSource, withReturns, String.toList_ofList]
  exact same

/-- **Line endings make no difference.**  When a carriage return is put in front of every line feed
of a source, the source has the same tokens, the same token listing and the same syntax tree, or
the same error on the same line. -/
theorem line_endings_make_no_difference (source : String) :
    tokenize (withReturns source) = tokenize source ∧
      tokenListing (withReturns source) = tokenListing source ∧
      parse (withReturns source) = parse source := by
  have same := scan_withReturns source
  have tokens : tokenize (withReturns source) = tokenize source := congrArg Scan.result same
  refine ⟨tokens, ?_, ?_⟩
  · rw [tokenListing, tokens, tokenListing]
  · rw [parse, parseTree, same, parse, parseTree]

end JackSyntax
