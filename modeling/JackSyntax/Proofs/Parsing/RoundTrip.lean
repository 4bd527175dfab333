/-
**From the text of a tree back to a source.**

The leaves of the text of a tree, unescaped, with quotes around the string constants and a blank
between them, make up a source again.  It has the tokens of the source the text was made of, and it
is parsed to the same text: on the way through the parser and the writer no token is lost, doubled,
moved or changed.

Main definitions:

* `leafSource` — the source that is made of the leaves of a text.

Main results:

* `leafSource_render` — the leaves of a tree make up its tokens as they are written;
* `tokenize_and_parse_leafSource` — **the round trip through the text of a tree**.
-/

import JackSyntax.Proofs.Markup.Listings
import JackSyntax.Proofs.Parsing.Acceptance

set_option relaxedAutoImplicit false
set_option autoImplicit false

namespace JackSyntax

/-! ### The way back -/

/-- What a leaf stands for in a source: its value, unescaped, and in quotes if it is a string
constant. -/
def leafSpelling (leaf : List Char × List Char) : List Char :=
  if leaf.1 = "stringConstant".toList then '"' :: (unescape leaf.2 ++ ['"']) else unescape leaf.2

/-- The source that is made of the leaves of a text, with a blank between them. -/
def leafSource (text : String) : String :=
  String.ofList ([' '].intercalate ((leaves text).map leafSpelling))

/-- A token is spelled in its leaf as in a source. -/
theorem leafSpelling_element {token : Token} (lexical : token.IsLexical) :
    leafSpelling token.element = token.written := by
  have same : token.tag.toList = "stringConstant".toList ↔ token.tag = "stringConstant" :=
    String.toList_inj
  simp only [leafSpelling, Token.element, Token.written, Token.unescape_markup lexical, same]

/-- Leaves that are tokens make up these tokens as they are written. -/
theorem leafSource_of_leaves {text : String} {tokens : List Token}
    (read : leaves text = tokens.map Token.element)
    (lexical : ∀ token ∈ tokens, token.IsLexical) :
    leafSource text = String.ofList (joined tokens) := by
  have spelled : (tokens.map Token.element).map leafSpelling = tokens.map Token.written := by
    rw [List.map_map]
    exact List.map_congr_left fun token inside => leafSpelling_element (lexical token inside)
  rw [leafSource, read, spelled, joined]

/-- The leaves of a tree make up its tokens as they are written. -/
theorem leafSource_render {tree : Tree} (lexical : ∀ token ∈ tree.tokens, token.IsLexical) :
    leafSource tree.render = String.ofList (joined tree.tokens) :=
  leafSource_of_leaves (leaves_render lexical) lexical

/-! ### There and back -/

/-- The tokens of a source can stand in a source. -/
theorem isLexical_of_tokenize {source : String} {tokens : List Token}
    (h : tokenize source = .ok tokens) :
    ∀ token ∈ tokens, token.IsLexical := by
  have plain := PlainScanner.result_scanFrom source.toList source.toList 1 rfl
  exact PlainScanner.isLexical_of_tokensFrom (plain.symm.trans h)

/-- Tokens that are written down are the tokens of what is written. -/
theorem tokenize_joined {tokens : List Token} (lexical : ∀ token ∈ tokens, token.IsLexical) :
    tokenize (String.ofList (joined tokens)) = .ok tokens := by
  rw [PlainScanner.tokenize_ofList, PlainScanner.tokensFrom_joined _ lexical]

/-- **The round trip through the text of a tree.**  The source that is made of the leaves of what a
source is parsed to has the same tokens and is parsed to the same text. -/
theorem tokenize_and_parse_leafSource {source text : String} (accepted : parse source = .ok text) :
    tokenize (leafSource text) = tokenize source ∧ parse (leafSource text) = .ok text := by
  obtain ⟨tree, answer, rfl⟩ := (parse_eq_ok_iff source text).1 accepted
  obtain ⟨complete, derives, leaves, nesting⟩ := (Scan.readClass_eq_ok_iff tree).1 answer
  have tokens : tokenize source = .ok tree.tokens :=
    (tokenize_eq_ok_iff source tree.tokens).2 ⟨complete, leaves.symm⟩
  have lexical := isLexical_of_tokenize tokens
  -- the tokens are the leaves of the same tree, and these alone decide what the parser answers
  have again : tokenize (leafSource tree.render) = .ok tree.tokens := by
    rw [leafSource_render lexical, tokenize_joined lexical]
  obtain ⟨complete', leaves'⟩ := (tokenize_eq_ok_iff _ tree.tokens).1 again
  refine ⟨again.trans tokens.symm, (parse_eq_ok_iff _ tree.render).2 ⟨tree, ?_, rfl⟩⟩
  exact (Scan.readClass_eq_ok_iff tree).2 ⟨complete', derives, leaves'.symm, nesting⟩

/-- A source with comments, leading zeros and string constants that hold entities, brackets, comment
signs or nothing goes through the round trip. -/
theorem round_trip_with_entities :
    let source := "class A \x7b // say\n function void f() \x7b " ++
      "do g(\"&lt; <b> // /* &amp; \", -007, \"\"); return; \x7d \x7d"
    ∃ text, parse source = .ok text ∧
      tokenize (leafSource text) = tokenize source ∧ parse (leafSource text) = .ok text := by
  intro source
  have accepted : (parse source).isOk = true := by decide +kernel
  cases answer : parse source with
  | error error =>
      rw [answer] at accepted
      cases accepted
  | ok text => exact ⟨text, rfl, tokenize_and_parse_leafSource answer⟩

end JackSyntax
