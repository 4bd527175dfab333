/-
**Escaping of markup characters.**

Main definitions:

* `escapeCharacter` — the entity of a markup character, and any other character as it is;
* `escape` — a text with its markup characters replaced.
-/

set_option relaxedAutoImplicit false
set_option autoImplicit false

namespace JackSyntax

/-- What a character becomes inside an element. -/
def escapeCharacter : Char → List Char
  | '<' => ['&', 'l', 't', ';']
  | '>' => ['&', 'g', 't', ';']
  | '&' => ['&', 'a', 'm', 'p', ';']
  | c => [c]

/-- A text as it is written inside an element. -/
def escape (text : String) : String := String.ofList (text.toList.flatMap escapeCharacter)

@[simp] theorem toList_escape (text : String) :
    (escape text).toList = text.toList.flatMap escapeCharacter := by simp [escape]

end JackSyntax
