set_option autoImplicit false

namespace QueryBook.Text

def sameLetter (letter c : Char) : Bool :=
  c == letter || c == letter.toUpper ||
    (letter == 's' && c == '\u017f') ||
    (letter == 'i' && (c == '\u0130' || c == '\u0131')) ||
    (letter == 'k' && c == '\u212a')

def afterKeyword : List Char → List Char → Option (List Char)
  | [], cs => some cs
  | _ :: _, [] => none
  | k :: ks, c :: cs => if sameLetter k c then afterKeyword ks cs else none

def capital (c : Char) : Char :=
  if c == '\u017f' then 'S' else if c == '\u0131' then 'I' else c.toUpper

def capitals (s : String) : String :=
  s.map capital

end QueryBook.Text
