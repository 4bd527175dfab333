/-
**The token at the head of a text.**

A token is found by patterns that are tried one after the other.  A keyword is looked for first: the
whole word at the head of the text, that is the longest run of word characters, has to be one.  Then
come symbols, integer constants and string constants, and identifiers come last; these reach as far
as their ASCII letters, digits and underscores.

Main definitions:

* `LexFault` — why a text has no token at its head;
* `isIdentifierStart`, `isIdentifierPart` — the characters of identifiers;
* `decimalValue` — the number that a run of digits denotes;
* `Match` — what a pattern finds;
* `readKeyword?`, `readSymbol?`, `readInteger?`, `readString?`, `readIdentifier?` — the patterns,
  and `patterns` — their order;
* `readToken` — the token at the head of a text and what follows it.

Main results:

* `length_lt_of_mem_patterns` — no pattern finds an empty token;
* `readToken_length_lt` — a token is never empty.
-/

import JackSyntax.Text.WhiteSpace
import JackSyntax.Text.WordCharacter
import JackSyntax.Token.Basic

set_option relaxedAutoImplicit false
set_option autoImplicit false

namespace JackSyntax

/-- Why a text has no token at its head. -/
inductive LexFault where
  /-- The text is empty. -/
  | endOfInput
  /-- No token begins like the text, which is shown up to its first white space. -/
  | unexpectedToken (fragment : String)
  /-- The digits denote a number that does not fit into sixteen bits. -/
  | integerOutOfRange (digits : String)
  deriving DecidableEq

/-- The text of a lexical diagnostic. -/
def LexFault.message : LexFault → String
  | .endOfInput => "Unexpected end of input"
  | .unexpectedToken fragment => "Unexpected token: " ++ fragment
  | .integerOutOfRange digits => "Integer constant out of range: " ++ digits

/-- The characters that may begin an identifier: the ASCII letters and the underscore. -/
def isIdentifierStart (c : Char) : Bool := c.isAlpha || c == '_'

/-- The characters that may continue an identifier: the ASCII letters and digits and the
underscore. -/
def isIdentifierPart (c : Char) : Bool := c.isAlphanum || c == '_'

/-- The characters that a string constant may hold: all but the quote and the line feed. -/
def isStringPart (c : Char) : Bool := c != '"' && c != '\n'

/-- The number that a run of decimal digits denotes. -/
def decimalValue (digits : List Char) : Nat :=
  digits.foldl (fun value digit => 10 * value + (digit.toNat - '0'.toNat)) 0

/-! ### Patterns -/

/-- What a pattern finds at the head of a text: a token and what follows it, or a fault. -/
abbrev Match := Except LexFault (Token × List Char)

/-- The keyword at the head of a text. -/
def readKeyword? (text : List Char) : Option Match :=
  (Keyword.ofSpelling? (String.ofList (text.takeWhile isWordCharacter))).map fun word =>
    .ok (.keyword word, text.dropWhile isWordCharacter)

/-- The symbol at the head of a text. -/
def readSymbol? : List Char → Option Match
  | c :: rest => if symbols.toList.contains c then some (.ok (.symbol c, rest)) else none
  | [] => none

/-- The integer constant of the digits at the head of a text. -/
def readInteger (text : List Char) : Match :=
  let digits := text.takeWhile Char.isDigit
  let value := decimalValue digits
  if value < UInt16.size then
    .ok (.integerConstant (UInt16.ofNat value), text.dropWhile Char.isDigit)
  else
    .error (.integerOutOfRange (String.ofList digits))

/-- The integer constant at the head of a text. -/
def readInteger? (text : List Char) : Option Match :=
  if text.takeWhile Char.isDigit = [] then none else some (readInteger text)

/-- The string constant at the head of a text.  It must be closed on its line. -/
def readString? : List Char → Option Match
  | '"' :: text =>
      match text.dropWhile isStringPart with
      | '"' :: rest =>
          some (.ok (.stringConstant (String.ofList (text.takeWhile isStringPart)), rest))
      | _ => none
  | _ => none

/-- The identifier at the head of a text. -/
def readIdentifier? : List Char → Option Match
  | c :: rest =>
      if isIdentifierStart c then
        some (.ok (.identifier (String.ofList ((c :: rest).takeWhile isIdentifierPart)),
          (c :: rest).dropWhile isIdentifierPart))
      else none
  | [] => none

/-- The patterns of tokens, in the order in which they are tried. -/
def patterns : List (List Char → Option Match) :=
  [readKeyword?, readSymbol?, readInteger?, readString?, readIdentifier?]

/-- The result where no token begins: the text up to its first white space is reported. -/
def unexpectedToken (text : List Char) : Match :=
  .error (.unexpectedToken (String.ofList (text.takeWhile fun c => !isWhiteSpace c)))

/-- The token at the head of a text, and what follows it. -/
def readToken (text : List Char) : Match :=
  if text = [] then .error .endOfInput
  else (patterns.findSome? fun pattern => pattern text).getD (unexpectedToken text)

/-! ### Tokens are not empty -/

variable {text rest : List Char} {token : Token}

/-- A run that is not empty is shorter when it is gone. -/
theorem length_dropWhile_lt_of_takeWhile {p : Char → Bool} (some : text.takeWhile p ≠ []) :
    (text.dropWhile p).length < text.length := by
  have whole := congrArg List.length (List.takeWhile_append_dropWhile (p := p) (l := text))
  rw [List.length_append] at whole
  have := List.length_pos_iff.2 some
  omega

/-- A run that begins with an accepted character is not empty. -/
theorem length_dropWhile_lt {p : Char → Bool} {c : Char} {rest : List Char} (h : p c = true) :
    ((c :: rest).dropWhile p).length < (c :: rest).length := by
  refine length_dropWhile_lt_of_takeWhile ?_
  rw [List.takeWhile_cons_of_pos h]
  exact List.cons_ne_nil _ _

theorem isIdentifierPart_of_start {c : Char} (h : isIdentifierStart c = true) :
    isIdentifierPart c = true := by
  simp only [isIdentifierStart, isIdentifierPart, Char.isAlphanum, Bool.or_eq_true] at h ⊢
  rcases h with h | h <;> simp [h]

theorem readKeyword?_length_lt (h : readKeyword? text = some (.ok (token, rest))) :
    rest.length < text.length := by
  obtain ⟨word, spelled, same⟩ := Option.map_eq_some_iff.1 h
  obtain ⟨-, rfl⟩ := Prod.mk.inj (Except.ok.inj same)
  refine length_dropWhile_lt_of_takeWhile fun empty => ?_
  rw [empty] at spelled
  revert spelled
  cases word <;> decide

theorem readSymbol?_length_lt (h : readSymbol? text = some (.ok (token, rest))) :
    rest.length < text.length := by
  cases text with
  | nil => cases h
  | cons c others =>
      rw [readSymbol?] at h
      split at h
      · obtain ⟨-, rfl⟩ := Prod.mk.inj (Except.ok.inj (Option.some.inj h))
        exact Nat.lt_succ_self _
      · cases h

theorem readInteger?_length_lt (h : readInteger? text = some (.ok (token, rest))) :
    rest.length < text.length := by
  rw [readInteger?] at h
  split at h
  · cases h
  · rename_i digits
    have h := Option.some.inj h
    simp only [readInteger] at h
    split at h
    · obtain ⟨-, rfl⟩ := Prod.mk.inj (Except.ok.inj h)
      exact length_dropWhile_lt_of_takeWhile digits
    · cases h

theorem readString?_length_lt (h : readString? text = some (.ok (token, rest))) :
    rest.length < text.length := by
  unfold readString? at h
  split at h
  · rename_i text
    split at h
    · rename_i tail closing
      obtain ⟨-, rfl⟩ := Prod.mk.inj (Except.ok.inj (Option.some.inj h))
      have shorter := (List.dropWhile_sublist isStringPart (l := text)).length_le
      rw [closing, List.length_cons] at shorter
      rw [List.length_cons]
      omega
    · cases h
  · cases h

theorem readIdentifier?_length_lt (h : readIdentifier? text = some (.ok (token, rest))) :
    rest.length < text.length := by
  cases text with
  | nil => cases h
  | cons c others =>
      rw [readIdentifier?] at h
      split at h
      · rename_i start
        obtain ⟨-, rfl⟩ := Prod.mk.inj (Except.ok.inj (Option.some.inj h))
        exact length_dropWhile_lt (isIdentifierPart_of_start start)
      · cases h

/-- No pattern finds an empty token. -/
theorem length_lt_of_mem_patterns {pattern : List Char → Option Match} (h : pattern ∈ patterns)
    (found : pattern text = some (.ok (token, rest))) : rest.length < text.length := by
  simp only [patterns, List.mem_cons, List.not_mem_nil, or_false] at h
  rcases h with rfl | rfl | rfl | rfl | rfl
  · exact readKeyword?_length_lt found
  · exact readSymbol?_length_lt found
  · exact readInteger?_length_lt found
  · exact readString?_length_lt found
  · exact readIdentifier?_length_lt found

/-- Reading a token shortens the text. -/
theorem readToken_length_lt (h : readToken text = .ok (token, rest)) :
    rest.length < text.length := by
  rw [readToken] at h
  split at h
  · cases h
  · cases found : patterns.findSome? fun pattern => pattern text with
    | none =>
        rw [found] at h
        cases h
    | some result =>
        rw [found] at h
        obtain ⟨pattern, tried, answer⟩ := List.exists_of_findSome?_eq_some found
        exact length_lt_of_mem_patterns tried (answer.trans (congrArg some h))

end JackSyntax
