import QueryBook.Text.Quoted
import QueryBook.Text.Search

set_option autoImplicit false

namespace QueryBook

abbrev Path := List String

namespace Path

-- Empty names and names for the place itself are left out.
def names (cs : List Char) : List String :=
  ((Text.splitOn '/' cs).map String.ofList).filter fun name => name ≠ "" ∧ name ≠ "."

-- Two slashes in front are a root of their own; one slash, or more than two, are the usual root.
def ofText (text : String) : Path :=
  match text.toList with
  | '/' :: '/' :: '/' :: rest => "/" :: names rest
  | '/' :: '/' :: rest => "//" :: names rest
  | '/' :: rest => "/" :: names rest
  | cs => names cs

def text : Path → String
  | [] => "."
  | "/" :: rest => "/" ++ String.intercalate "/" rest
  | "//" :: rest => "//" ++ String.intercalate "/" rest
  | names => String.intercalate "/" names

-- A name up to its last dot, and the suffix after it. A dot at either end of the name does not
-- count.
def splitSuffix? (name : List Char) : Option (List Char × List Char) :=
  let backwards := name.reverse
  match backwards.dropWhile (· ≠ '.') with
  | _ :: stem =>
    let suffix := (backwards.takeWhile (· ≠ '.')).reverse
    if stem = [] ∨ suffix = [] then none else some (stem.reverse, suffix)
  | [] => none

def isNull (path : Path) : Bool :=
  path.any fun name => name.toList.contains '\x00'

def isHidden (name : String) : Bool :=
  name.toList.head? == some '.'

end Path

end QueryBook
