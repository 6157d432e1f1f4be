import QueryBook.Error.Basic

set_option autoImplicit false

namespace QueryBook

-- What a parser of queries makes of a text: the labels of its columns, if it is one query. `star`
-- tells that the query selects every column of a table.
inductive Parsed where
  | query (star : Bool) (labels : List String)
  | other
  | unparsed (reason : String)
  -- The parser breaks down, other than on a text that it cannot parse.
  | broken (name text : String)
  deriving DecidableEq, Repr

abbrev QueryParser := Option String → String → Parsed

end QueryBook
