import QueryBook.Error.Basic
import QueryBook.Text.Caseless

set_option autoImplicit false

namespace QueryBook.Template

def includeKeyword : List Char := "include".toList

def afterInclude? (cs : List Char) : Option (List Char) :=
  match Text.afterKeyword includeKeyword cs with
  | some [] => some []
  | some (c :: rest) => if Text.isBlank c then some (c :: rest) else none
  | none => none

-- The one word of a text that starts with a blank; a line break may end the text.
def onlyWord? (cs : List Char) : Option (List Char) :=
  let rest := Text.trimStart cs
  let word := rest.takeWhile (!Text.isBlank ·)
  let after := rest.dropWhile (!Text.isBlank ·)
  if word ≠ [] ∧ (after = [] ∨ after = ['\n']) then some word else none

def includedTag (block : String) : Except Error (Option String) :=
  match afterInclude? block.toList with
  | none => .ok none
  | some rest =>
    match onlyWord? rest with
    | some tag => .ok (some (String.ofList tag))
    | none => .error (.malformedInclude block none)

end QueryBook.Template
