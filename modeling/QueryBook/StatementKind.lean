import QueryBook.Error.Basic
import QueryBook.Text.Caseless

set_option autoImplicit false

namespace QueryBook

inductive StatementKind where
  | mutation
  | exactlyOne
  | zeroOrOne
  | zeroOrMore
  deriving DecidableEq, Repr

namespace StatementKind

def name : StatementKind → String
  | .mutation => "mutation"
  | .exactlyOne => "select_exactly_one"
  | .zeroOrOne => "select_zero_or_one"
  | .zeroOrMore => "select_zero_or_more"

def isSelect : StatementKind → Bool
  | .mutation => false
  | _ => true

def ofSuffix? : List Char → Option StatementKind
  | [] => some .zeroOrMore
  | ['*'] => some .zeroOrMore
  | ['?'] => some .zeroOrOne
  | ['1'] => some .exactlyOne
  | _ => none

def selectKeyword : List Char := "select".toList

def selectSuffix? (cs : List Char) : Option (List Char × List Char) :=
  (Text.afterKeyword selectKeyword cs).map fun rest =>
    (rest.takeWhile (!Text.isBlank ·), rest.dropWhile (!Text.isBlank ·))

def classify (sql : String) : Except Error (StatementKind × String) :=
  match selectSuffix? sql.toList with
  | none => .ok (.mutation, sql)
  | some (suffix, rest) =>
    match ofSuffix? suffix with
    | some kind => .ok (kind, String.ofList (sql.toList.take selectKeyword.length ++ rest))
    | none => .error (.selectMode (String.ofList suffix) sql none)

end StatementKind

end QueryBook
