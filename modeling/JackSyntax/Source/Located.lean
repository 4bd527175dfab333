/-
**Places in a source.**

Main definitions:

* `Located` — something together with the line of the source it belongs to;
* `atLine` — a diagnostic text that names its line.
-/

set_option relaxedAutoImplicit false
set_option autoImplicit false

namespace JackSyntax

/-- Something found on a line of a source.  The first line has the number one. -/
structure Located (α : Type) where
  line : Nat
  item : α
  deriving DecidableEq

/-- A diagnostic text begins with the number of its line. -/
def atLine (line : Nat) (text : String) : String := "[line " ++ toString line ++ "] " ++ text

end JackSyntax
