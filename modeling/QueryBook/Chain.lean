import QueryBook.Statement.Basic

set_option autoImplicit false

namespace QueryBook

inductive ChainEntry where
  | statement (s : Statement)
  | inclusion (tag : String)
  deriving DecidableEq, Repr

structure Chain where
  tag : String
  entries : List ChainEntry
  deriving DecidableEq, Repr

namespace Chain

def includes (chain : Chain) : List String :=
  chain.entries.filterMap fun
    | .inclusion tag => some tag
    | .statement _ => none

def statements (chain : Chain) : List Statement :=
  chain.entries.filterMap fun
    | .statement s => some s
    | .inclusion _ => none

def listing (chain : Chain) : String :=
  "StatementChain(tag=" ++ Text.quoted chain.tag ++ ", entries=" ++
    toString chain.entries.length ++ ")"

end Chain

def inclusionListing (tag : String) : String :=
  "IncludeReference(tag=" ++ Text.quoted tag ++ ")"

end QueryBook
