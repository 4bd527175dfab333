/-
**The lines that are reported.**

The parser is always one token ahead of what it consumes, and behind that token trivia is skipped at
once, so the place an error belongs to has been left when the error is raised.  The line that it
names is nevertheless the right one: it is the line of the cursor that yielded the lookahead, and
that line is one more than the number of line feeds before the lookahead.

Main results:

* `Scan.readClass_error_reached` — a reading of a source fails before a cursor of the source;
* `lines_count_line_feeds` — **every line number is right**.
-/

import JackSyntax.Proofs.Lexing.Positions
import JackSyntax.Proofs.Parsing.NestingLimit

set_option relaxedAutoImplicit false
set_option autoImplicit false

namespace JackSyntax

namespace Scan

variable {levels : Nat} {source : String} {failure : Failure}

/-- Where the reading of a source fails there is a cursor. -/
theorem readClass_error_reached (h : (scan source).readClass levels = .error failure) :
    ∃ tokens c, Reached source tokens c ∧ c.scanFrom [] = failure.ahead := by
  obtain ⟨passed, whole, -⟩ := isViablePrefix_of_error h
  obtain ⟨c, reached, same⟩ := exists_reached whole
  exact ⟨_, c, reached, same⟩

/-- A reading that fails otherwise than by a lexical error knows its lookahead. -/
theorem readClass_error_loaded {s : Scan} (h : s.readClass levels = .error failure)
    (other : ∀ fault, failure.fault ≠ .lexical fault) : failure.ahead.Loaded := by
  obtain ⟨-, -, loaded, -⟩ := readClass_congr_seen h other (Nat.le_refl _) fun _ => rfl
  exact loaded

end Scan

/-- The lookahead is what a cursor before it yields. -/
theorem Cursor.next?_of_lookahead {c : Cursor} {token : Token}
    (h : (c.scanFrom []).lookahead = some token) : ∃ c', c.next? = (some (.ok token), c') := by
  obtain ⟨first, rest, split, rfl⟩ := Scan.lookahead_eq_some h
  have scanned : c.scanFrom [] = Scan.prepend [first] ⟨rest, (c.scanFrom []).ending⟩ := by
    rw [Scan.prepend, List.singleton_append, ← split]
  obtain ⟨c', step, -⟩ := next?_of_scanFrom scanned
  exact ⟨c', step⟩

/-- Nothing remains where there is no lookahead, unless an error stands in its place. -/
theorem Cursor.rest_eq_nil_of_lookahead {c : Cursor} (loaded : (c.scanFrom []).Loaded)
    (h : (c.scanFrom []).lookahead = none) : c.rest = [] := by
  have empty := Scan.lookahead_eq_none_iff.1 h
  obtain ⟨line, ending⟩ := loaded empty
  exact rest_eq_nil_of_atEnd empty ending

/-- **Every line number is right.**

* While the tokens of a source are read, the line of the cursor is one more than the number of line
  feeds before the place where it stands, and it fits into 32 bits if the line feeds are fewer than
  `2 ^ 32 - 1`.  In that place begins the token that is yielded next, spelled in one of its ways,
  and the cursor goes on behind it and the trivia that follows.  If an error is yielded, it has that
  line and shows a text that begins in that place.  At the end all line feeds of the source are
  counted.
* The lexical error of a source is the one that is yielded behind the tokens before it.
* An error of the parser has the line of the cursor where it stood when it yielded the lookahead:
  the token that was found or, where nesting is too deep, that would come next; or the end of the
  source; or the text that is no token. -/
theorem lines_count_line_feeds (source : String) :
    (∀ tokens c, Reached source tokens c →
      (∃ before, source.toList = before ++ c.rest ∧ c.line = 1 + before.count '\n') ∧
      (source.toList.count '\n' < 2 ^ 32 - 1 → c.line < 2 ^ 32) ∧
      (∀ token c', c.next? = (some (.ok token), c') →
        ∃ spelling behind, c.rest = spelling ++ behind ∧ spelling ≠ [] ∧
          token.IsSpelledAs spelling ∧ c'.rest = PlainScanner.skip behind) ∧
      (∀ error c', c.next? = (some (.error error), c') →
        error.line = c.line ∧ error.item.offending ≠ [] ∧ error.item.offending <+: c.rest) ∧
      (c.hasMore = false → c.rest = [] ∧ c.line = 1 + source.toList.count '\n')) ∧
    (∀ tokens, tokenize source = .ok tokens →
      ∃ c, Reached source tokens c ∧ c.hasMore = false) ∧
    (∀ error, tokenize source = .error error →
      ∃ tokens c c', Reached source tokens c ∧ c.next? = (some (.error error), c')) ∧
    (∀ line fault, parse source = .error ⟨line, fault⟩ →
      ∃ tokens c, Reached source tokens c ∧ c.line = line ∧
        (scan source).readClass maxNesting = .error ⟨fault, c.scanFrom []⟩ ∧
        (∀ expected token, fault = .unexpected expected (some token) →
          ∃ c', c.next? = (some (.ok token), c')) ∧
        (∀ expected, fault = .unexpected expected none →
          c.hasMore = false ∧ line = 1 + source.toList.count '\n') ∧
        (fault = .nestingTooDeep → (∃ token c', c.next? = (some (.ok token), c')) ∨
          c.hasMore = false ∧ line = 1 + source.toList.count '\n') ∧
        (∀ lexical, fault = .lexical lexical →
          ∃ c', c.next? = (some (.error ⟨line, lexical⟩), c'))) := by
  refine ⟨?cursors, ?complete, ?cut, ?parser⟩
  case cursors =>
    intro tokens c reached
    refine ⟨reached.standsIn, fun few => ?_, fun token c' => Cursor.spelled_of_next?,
      fun error c' => reached.offending, fun atEnd => ?_⟩
    · have le := reached.line_le
      omega
    · have empty := Cursor.hasMore_eq_false.1 atEnd
      exact ⟨empty, reached.line_of_end empty⟩
  case complete =>
    intro tokens h
    obtain ⟨⟨line, ending⟩, rfl⟩ := (tokenize_eq_ok_iff ..).1 h
    obtain ⟨c, reached, noTokens, same⟩ := exists_reached_ending source
    have empty := Cursor.rest_eq_nil_of_atEnd noTokens (same.trans ending)
    exact ⟨c, reached, Cursor.hasMore_eq_false.2 empty⟩
  case cut =>
    intro error h
    obtain ⟨c, reached, noTokens, same⟩ := exists_reached_ending source
    have ending := (tokenize_eq_error_iff ..).1 h
    obtain ⟨c', step⟩ := Cursor.next?_of_failed noTokens (same.trans ending)
    exact ⟨_, c, c', reached, step⟩
  case parser =>
    intro line fault h
    obtain ⟨⟨fault, ahead⟩, answer, same⟩ := (parse_eq_error_iff ..).1 h
    cases same
    obtain ⟨tokens, c, reached, rfl⟩ := Scan.readClass_error_reached answer
    have line : c.line = (c.scanFrom []).line := c.line_scanFrom.symm
    have atEnd : (∀ lexical, fault ≠ .lexical lexical) → (c.scanFrom []).lookahead = none →
        c.hasMore = false ∧ (c.scanFrom []).line = 1 + source.toList.count '\n' := by
      intro other none
      have empty := Cursor.rest_eq_nil_of_lookahead (Scan.readClass_error_loaded answer other) none
      exact ⟨Cursor.hasMore_eq_false.2 empty, line ▸ reached.line_of_end empty⟩
    refine ⟨tokens, c, reached, line, answer, ?found, ?missing, ?deep, ?lexical⟩
    case found =>
      rintro expected token rfl
      exact Cursor.next?_of_lookahead (Scan.readClass_found answer).symm
    case missing =>
      rintro expected rfl
      exact atEnd (fun _ => Fault.noConfusion) (Scan.readClass_found answer).symm
    case deep =>
      rintro rfl
      cases ahead : (c.scanFrom []).lookahead with
      | none => exact Or.inr (atEnd (fun _ => Fault.noConfusion) ahead)
      | some token => exact Or.inl ⟨token, Cursor.next?_of_lookahead ahead⟩
    case lexical =>
      rintro lexical rfl
      obtain ⟨ending, empty⟩ := Scan.ending_of_lexical answer
      obtain ⟨passed, -, whole⟩ := reached.scan_eq
      rw [whole, Scan.ending_prepend] at ending
      exact Cursor.next?_of_failed empty ending

/-- Comments and empty lines count in front of a number and of the end of the source, and so do
lines in front of a hash and of a term that nests too deeply. -/
theorem lines_behind_comments :
    (parse "/* a\n*/\nclass // b\n\n1" =
        .error ⟨5, .unexpected .identifier (some (.integerConstant 1))⟩ ∧
      ∃ (before : List Char) (c c' : Cursor),
        "/* a\n*/\nclass // b\n\n1".toList = before ++ c.rest ∧
        before.count '\n' = 4 ∧ c.line < 2 ^ 32 ∧
        c.next? = (some (.ok (.integerConstant 1)), c')) ∧
    (parse "class // b\n\n" = .error ⟨3, .unexpected .identifier none⟩ ∧
      "class // b\n\n".toList.count '\n' = 2) ∧
    (tokenize "class\n#" = .error ⟨2, .unexpectedToken "#"⟩ ∧
      ∃ (before : List Char) (c : Cursor), "class\n#".toList = before ++ c.rest ∧
        before.count '\n' = 1 ∧ ['#'] <+: c.rest) ∧
    (∃ c : Cursor, c.line = 2 ∧ (c.hasMore = true → ∃ token c', c.next? = (some (.ok token), c')) ∧
      (scan (signedReturn 127)).readClass maxNesting =
        .error ⟨.nestingTooDeep, c.scanFrom []⟩) := by
  have found : parse "/* a\n*/\nclass // b\n\n1" =
      .error ⟨5, .unexpected .identifier (some (.integerConstant 1))⟩ := by decide +kernel
  have missing : parse "class // b\n\n" = .error ⟨3, .unexpected .identifier none⟩ := by
    decide +kernel
  have lexical : tokenize "class\n#" = .error ⟨2, .unexpectedToken "#"⟩ := by decide +kernel
  refine ⟨⟨found, ?_⟩, ⟨missing, ?_⟩, ⟨lexical, ?_⟩, ?_⟩
  · obtain ⟨cursors, -, -, parser⟩ := lines_count_line_feeds "/* a\n*/\nclass // b\n\n1"
    obtain ⟨tokens, c, reached, line, -, yields, -⟩ := parser _ _ found
    obtain ⟨c', step⟩ := yields _ _ rfl
    obtain ⟨⟨before, whole, counted⟩, fits, -⟩ := cursors tokens c reached
    exact ⟨before, c, c', whole, by omega, fits (by decide +kernel), step⟩
  · obtain ⟨-, -, -, parser⟩ := lines_count_line_feeds "class // b\n\n"
    obtain ⟨_, _, -, -, -, -, atEnd, -⟩ := parser _ _ missing
    have line := (atEnd _ rfl).2
    omega
  · obtain ⟨cursors, -, cut, -⟩ := lines_count_line_feeds "class\n#"
    obtain ⟨tokens, c, c', reached, step⟩ := cut _ lexical
    obtain ⟨⟨before, whole, counted⟩, -, -, offends, -⟩ := cursors tokens c reached
    obtain ⟨line, -, shown⟩ := offends _ _ step
    exact ⟨before, c, whole, by simp only at line; omega, shown⟩
  · obtain ⟨-, -, -, parser⟩ := lines_count_line_feeds (signedReturn 127)
    obtain ⟨_, c, -, line, answer, -, -, deep, -⟩ := parser _ _ parse_signedReturn
    refine ⟨c, line, fun more => ?_, answer⟩
    rcases deep rfl with step | ⟨atEnd, -⟩
    · exact step
    · rw [atEnd] at more
      cases more

end JackSyntax
