/-
**What may stand between two tokens.**

A piece of trivia is a run of white space, a comment that begins with `//` and runs to the end of
its line, or a comment between `/*` and the first `*/` after it.  A comment that is never closed
is no trivia: its slash is a symbol.

Main definitions:

* `splitAfterClose?` — a text cut behind its first `*/`;
* `splitTrivia?` — a text cut behind the piece of trivia it begins with.

Main results:

* `splitTrivia?_append` — the two parts make up the text;
* `splitTrivia?_length_lt` — the piece is never empty.
-/

import JackSyntax.Text.WhiteSpace

set_option relaxedAutoImplicit false
set_option autoImplicit false

namespace JackSyntax

/-- Cuts `text` behind its first `*/`.  The characters of `passed`, latest first, belong to the
first part. -/
def splitAfterClose? (passed : List Char) : List Char → Option (List Char × List Char)
  | '*' :: '/' :: rest => some (('/' :: '*' :: passed).reverse, rest)
  | c :: rest => splitAfterClose? (c :: passed) rest
  | [] => none

/-- Cuts a text behind the piece of trivia at its head, if it begins with one. -/
def splitTrivia? : List Char → Option (List Char × List Char)
  | '/' :: '/' :: rest =>
      some ('/' :: '/' :: rest.takeWhile (· != '\n'), rest.dropWhile (· != '\n'))
  | '/' :: '*' :: rest => splitAfterClose? ['*', '/'] rest
  | c :: rest =>
      if isWhiteSpace c then
        some (c :: rest.takeWhile isWhiteSpace, rest.dropWhile isWhiteSpace)
      else none
  | [] => none

theorem splitAfterClose?_append {passed text first second : List Char}
    (h : splitAfterClose? passed text = some (first, second)) :
    first ++ second = passed.reverse ++ text ∧ passed.length < first.length := by
  fun_induction splitAfterClose? passed text with
  | case1 passed rest =>
      obtain ⟨rfl, rfl⟩ := Prod.mk.inj (Option.some.inj h)
      simp
  | case2 passed c rest _ ih =>
      obtain ⟨same, longer⟩ := ih h
      simp only [List.length_cons] at longer
      exact ⟨by simpa using same, by omega⟩
  | case3 => cases h

/-- The piece of trivia and what follows it make up the text. -/
theorem splitTrivia?_append {text first second : List Char}
    (h : splitTrivia? text = some (first, second)) : first ++ second = text := by
  unfold splitTrivia? at h
  split at h
  · obtain ⟨rfl, rfl⟩ := Prod.mk.inj (Option.some.inj h)
    simp
  · simpa using (splitAfterClose?_append h).1
  · split at h
    · obtain ⟨rfl, rfl⟩ := Prod.mk.inj (Option.some.inj h)
      simp
    · cases h
  · cases h

theorem splitTrivia?_ne_nil {text first second : List Char}
    (h : splitTrivia? text = some (first, second)) : first ≠ [] := by
  unfold splitTrivia? at h
  split at h
  · obtain ⟨rfl, rfl⟩ := Prod.mk.inj (Option.some.inj h)
    simp
  · have longer := (splitAfterClose?_append h).2
    rintro rfl
    simp at longer
  · split at h
    · obtain ⟨rfl, rfl⟩ := Prod.mk.inj (Option.some.inj h)
      simp
    · cases h
  · cases h

/-- Dropping a piece of trivia shortens the text. -/
theorem splitTrivia?_length_lt {text first second : List Char}
    (h : splitTrivia? text = some (first, second)) : second.length < text.length := by
  have nonempty := List.length_pos_iff.2 (splitTrivia?_ne_nil h)
  rw [← splitTrivia?_append h, List.length_append]
  omega

end JackSyntax
