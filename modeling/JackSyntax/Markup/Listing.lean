/-
**The token listing of a source.**

Main definitions:

* `listingMarks` — the tokens of a listing between its outer tags;
* `tokenListing` — the listing of a source, or its lexical error.
-/

import JackSyntax.Markup.Writer
import JackSyntax.Source.Scan

set_option relaxedAutoImplicit false
set_option autoImplicit false

namespace JackSyntax

/-- The marks of a token listing: one `tokens` element with one leaf for each token. -/
def listingMarks (tokens : List Token) : List Mark :=
  .opening "tokens" :: (tokens.map Mark.token ++ [.closing "tokens"])

/-- The flat listing of the tokens of a source, or its lexical error. -/
def tokenListing (source : String) : Except LexError String :=
  match tokenize source with
  | .ok tokens => .ok (Writer.empty.writeAll (listingMarks tokens)).text
  | .error error => .error error

end JackSyntax
