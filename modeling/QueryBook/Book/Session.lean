import QueryBook.Value.Text

set_option autoImplicit false

namespace QueryBook

structure Session where
  tag : String
  affected : Int
  stack : List String
  deriving DecidableEq, Repr

namespace Session

def start (tag : String) : Session :=
  ⟨tag, 0, [tag]⟩

def push (session : Session) (tag : String) : Session :=
  { session with stack := session.stack ++ [tag] }

def pop (session : Session) : Session :=
  { session with stack := session.stack.dropLast }

def listing (session : Session) : String :=
  "ExecutionSession(tag=" ++ Text.quoted session.tag ++ ", affected_rows=" ++
    toString session.affected ++ ", stack=" ++ listTexts session.stack ++ ")"

end Session

end QueryBook
