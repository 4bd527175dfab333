/-
**The outputs of a source.**

A source has an output of its own for its tree and, on request, one for its tokens.  Each of them is
a well-formed document, and nothing that a string constant holds can change that.

The tree is made in one pass over the source and the listing in another one, and yet they agree: the
listing has the leaves of the tree.  A source that is parsed is always listed, so that asking for a
listing never makes a file fail.

Main definitions:

* `OutputsAgree` — how the two outputs of a source agree.

Main results:

* `outputs_are_documents` — **the outputs of a source are documents**;
* `map_tree_compile` — asking for a listing changes neither the tree nor the error;
* `listing_agrees_with_tree` — **the outputs of a source agree, and so do those of a file**.
-/

import JackSyntax.Analysis.Outputs
import JackSyntax.FileSystem.Operations
import JackSyntax.Proofs.Markup.Listings
import JackSyntax.Proofs.Parsing.RoundTrip

set_option relaxedAutoImplicit false
set_option autoImplicit false

namespace JackSyntax

open JackSyntax.Tree

/-! ### Documents -/

/-- What is parsed is a `class` element around trees with the tokens of the source. -/
theorem exists_trees_of_parse {source text : String} (h : parse source = .ok text) :
    ∃ trees, tokenize source = .ok (tokensAll trees) ∧
      text = unlines (elementLines "class" trees) := by
  obtain ⟨tree, answer, rfl⟩ := (parse_eq_ok_iff source text).1 h
  obtain ⟨complete, derived, leaves, -⟩ := (Scan.readClass_eq_ok_iff tree).1 answer
  obtain ⟨trees, -, same⟩ := (Ebnf.name_iff_of_node .«class» rfl).1 derived
  obtain rfl : tree = .node .classDec trees := by simpa using same
  refine ⟨trees, (tokenize_eq_ok_iff ..).2 ⟨complete, leaves.symm⟩, ?_⟩
  rw [render_eq_unlines, lines_node]
  rfl

theorem isWord_class : IsWord "class".toList := isWord_phraseTag .classDec

theorem isWord_tokens : IsWord "tokens".toList :=
  ⟨⟨_, rfl, rfl⟩, List.all_eq_true.1 (by decide : "tokens".toList.all isIdentifierPart = true)⟩

/-- **The outputs of a source are documents**: the text of its tree is one `class` element and its
token listing one `tokens` element, whatever the string constants of the source hold. -/
theorem outputs_are_documents (source text : String) :
    (parse source = .ok text → ∃ rows, IsDocument "class" text rows) ∧
      (tokenListing source = .ok text → ∃ rows, IsDocument "tokens" text rows) := by
  constructor
  · intro parsed
    obtain ⟨trees, tokens, rfl⟩ := exists_trees_of_parse parsed
    exact exists_isDocument isWord_class (isLexical_of_tokenize tokens)
  · intro listed
    obtain ⟨tokens, answer, rfl⟩ := (tokenListing_eq_ok_iff ..).1 listed
    exact exists_isDocument isWord_tokens (by simpa using isLexical_of_tokenize answer)

/-- Tags, entities, tabs and unfinished entities in string constants are no markup in an output. -/
theorem outputs_of_markup_are_documents :
    let source := "class A \x7b function void f() \x7b " ++
      "do g(\"</term>\", \"\t<b> & </b>\", \"&lt; &amp\"); return; \x7d \x7d"
    (∃ text rows, parse source = .ok text ∧ IsDocument "class" text rows) ∧
      ∃ text rows, tokenListing source = .ok text ∧ IsDocument "tokens" text rows := by
  intro source
  obtain ⟨text, parsed⟩ := exists_eq_ok_of_isOk (by decide +kernel : (parse source).isOk = true)
  obtain ⟨rows, document⟩ := (outputs_are_documents source text).1 parsed
  obtain ⟨listing, listed⟩ :=
    exists_eq_ok_of_isOk (by decide +kernel : (tokenListing source).isOk = true)
  obtain ⟨rows', document'⟩ := (outputs_are_documents source listing).2 listed
  exact ⟨⟨text, rows, parsed, document⟩, listing, rows', listed, document'⟩

/-! ### Agreement -/

/-- How the two outputs of a source agree. -/
structure OutputsAgree (source : String) : Prop where
  /-- The listing is missing exactly if there are no tokens, for the same reason. -/
  fails : ∀ error, tokenListing source = .error error ↔ tokenize source = .error error
  /-- Otherwise each token has a line of its own between the two tags, behind one tab, and no other
  line holds a leaf. -/
  lines : ∀ tokens, tokenize source = .ok tokens →
    ∃ listing, tokenListing source = .ok listing ∧
      listing.toList.splitOn '\n' =
        "<tokens>".toList :: (tokens.map (fun token => (leafLine 1 token).toList) ++
          ["</tokens>".toList, []]) ∧
      leafLines listing = tokens.map fun token => (leafLine 0 token).toList
  /-- From a listing the tokens are read back. -/
  recovered : ∀ listing, tokenListing source = .ok listing →
    tokenize (leafSource listing) = tokenize source
  /-- A source that is parsed is listed too, and with the same leaves. -/
  leaves : ∀ text, parse source = .ok text →
    ∃ listing, tokenListing source = .ok listing ∧ leafLines text = leafLines listing
  /-- Asking for the listing changes neither the tree nor the error. -/
  unchanged : ∀ withTokens, (compile withTokens source).map Compiled.tree = parse source
  /-- Who asks for the listing gets it, and nobody else. -/
  listed : ∀ withTokens compiled, compile withTokens source = .ok compiled →
    ∃ listing, tokenListing source = .ok listing ∧
      compiled.tokens = if withTokens then some listing else none

/-- A source that is parsed is listed too, and with the same leaves. -/
theorem tokenListing_of_parse {source text : String} (h : parse source = .ok text) :
    ∃ listing, tokenListing source = .ok listing ∧ leafLines text = leafLines listing := by
  obtain ⟨trees, answer, rfl⟩ := exists_trees_of_parse h
  have lexical := isLexical_of_tokenize answer
  refine ⟨_, (tokenListing_eq_ok_iff ..).2 ⟨_, answer, rfl⟩, ?_⟩
  rw [leafLines_elementLines isWord_class lexical,
    leafLines_elementLines isWord_tokens (by simpa using lexical), tokensAll_map_leaf]

/-- From a listing the tokens are read back. -/
theorem tokenize_leafSource_listing {source listing : String}
    (h : tokenListing source = .ok listing) : tokenize (leafSource listing) = tokenize source := by
  obtain ⟨tokens, answer, rfl⟩ := (tokenListing_eq_ok_iff ..).1 h
  have lexical := isLexical_of_tokenize answer
  have read : leaves (unlines (elementLines "tokens" (tokens.map .leaf))) =
      tokens.map Token.element := by
    rw [leaves_elementLines isWord_tokens (by simpa using lexical), tokensAll_map_leaf]
  rw [leafSource_of_leaves read lexical, tokenize_joined lexical, answer]

/-- Nothing but the listing is added to what is parsed: it cannot fail any more. -/
theorem compile_eq_map (withTokens : Bool) (source : String) :
    compile withTokens source = (parse source).map fun text =>
      ⟨text, if withTokens then (tokenListing source).toOption else none⟩ := by
  unfold compile
  cases parsed : parse source with
  | error error => rfl
  | ok text =>
      obtain ⟨listing, listed, -⟩ := tokenListing_of_parse parsed
      rw [listed]
      cases withTokens <;> rfl

theorem map_tree_compile (withTokens : Bool) (source : String) :
    (compile withTokens source).map Compiled.tree = parse source := by
  rw [compile_eq_map]
  cases parse source <;> rfl

theorem outputsAgree (source : String) : OutputsAgree source where
  fails error := by
    rw [tokenListing_eq_map]
    cases tokenize source <;> simp [Except.map]
  lines tokens answer := by
    have lexical : ∀ token ∈ tokensAll (tokens.map .leaf), token.IsLexical := by
      simpa using isLexical_of_tokenize answer
    refine ⟨_, (tokenListing_eq_ok_iff ..).2 ⟨tokens, answer, rfl⟩, ?_, ?_⟩
    · rw [splitOn_unlines (newline_not_mem_elementLines isWord_tokens lexical), elementLines,
        linesAll_map_leaf]
      simp
    · rw [leafLines_elementLines isWord_tokens lexical, tokensAll_map_leaf]
  recovered _ := tokenize_leafSource_listing
  leaves _ := tokenListing_of_parse
  unchanged withTokens := map_tree_compile withTokens source
  listed withTokens compiled success := by
    rw [compile_eq_map] at success
    cases parsed : parse source with
    | error error =>
        rw [parsed] at success
        cases success
    | ok text =>
        obtain ⟨listing, listed, -⟩ := tokenListing_of_parse parsed
        rw [parsed, listed] at success
        obtain rfl := Except.ok.inj success
        exact ⟨listing, listed, rfl⟩

section

variable {m : Type → Type} [Monad m] [LawfulMonad m] [MonadFiles m]

/-- The tree of a file, or the error, with the listing or without it. -/
theorem map_tree_compileFile (withTokens : Bool) (input : Path) :
    Except.map Compiled.tree <$> (compileFile withTokens input : m _) = do
      match ← MonadFiles.read input with
      | .error error => return .error (.system input error)
      | .ok bytes =>
          match String.fromUTF8? bytes with
          | none => return .error (.notText input)
          | some source => return (parse source).mapError (.compile input) := by
  unfold compileFile
  rw [map_bind]
  refine bind_congr fun answer => ?_
  cases answer with
  | error error => simp [Except.map]
  | ok bytes =>
      cases decoded : String.fromUTF8? bytes with
      | none => simp [decoded, Except.map]
      | some source =>
          have same := map_tree_compile withTokens source
          cases compiled : compile withTokens source <;>
            simp [decoded, compiled, ← same, Except.map, Except.mapError]

/-- **The outputs of a source agree, and so do those of a file.**  A file has the same tree or the
same error whether its tokens are listed or not, whatever system it is read from. -/
theorem listing_agrees_with_tree (source : String) (input : Path) : OutputsAgree source ∧
    Except.map Compiled.tree <$> (compileFile true input : m _) =
      Except.map Compiled.tree <$> (compileFile false input : m _) :=
  ⟨outputsAgree source, by rw [map_tree_compileFile, map_tree_compileFile]⟩

end

/-- The tokens of a class with markup in its string constants are listed as they are in its tree. -/
theorem listing_of_markup_agrees :
    let source := "class A \x7b function void f() \x7b " ++
      "do g(\"</tokens>\", \"\t<b> & </b>\", \"&lt; &amp\"); return; \x7d \x7d // A"
    let input := Path.mk "A.jack"
    (∃ text listing, parse source = .ok text ∧ tokenListing source = .ok listing ∧
      leafLines text = leafLines listing ∧ tokenize (leafSource listing) = tokenize source) ∧
    Except.map Compiled.tree <$> (compileFile true input : StateM FileSystem _) =
      Except.map Compiled.tree <$> (compileFile false input : StateM FileSystem _) := by
  intro source input
  obtain ⟨agree, same⟩ := listing_agrees_with_tree (m := StateM FileSystem) source input
  obtain ⟨text, parsed⟩ := exists_eq_ok_of_isOk (by decide +kernel : (parse source).isOk = true)
  obtain ⟨listing, listed, lines⟩ := agree.leaves text parsed
  exact ⟨⟨text, listing, parsed, listed, lines, agree.recovered listing listed⟩, same⟩

end JackSyntax
