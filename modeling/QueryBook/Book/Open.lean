import QueryBook.Book.Basic
import QueryBook.Connection.Cursor
import QueryBook.Settings

set_option autoImplicit false

namespace QueryBook

namespace Settings

variable {σ : Type}

def setup (s : Settings) (parse : QueryParser) (connection : Connection σ) : Setup σ where
  connection
  placement := s.placement
  style := s.style
  warnBareColumns := s.warnBareColumns
  dialect := s.dialect
  parse
  maxDepth := s.maxDepth

def book (s : Settings) (library : Library) (link : Link σ) : Book σ where
  cache := []
  journal := link.journal
  conn := link.conn
  library
  connected := true
  autocommit := s.autocommit

-- A driver as a connection. The settings come before what the driver's module declares; only
-- drivers that know `EXPLAIN` are asked to check texts.
def attach (s : Settings) (driver : CursorDriver σ) (explains : Bool) (module : String)
    (declared : Option String) : Except Error (Connection (Cursors σ)) :=
  let style : Except Error MarkerStyle :=
    match s.style with
    | some style => .ok style
    | none => MarkerStyle.ofDeclared module declared
  style.map fun style => Cursors.connection driver style (s.validate && explains)

def connect (s : Settings) (request : String → Request σ Unit) : Action (Link σ) Unit := do
  Link.note (.debug "adapters.dbapi" ("Connecting to sqlite database " ++ s.database))
  Link.onConn (Action.request (Error.wrapFault none) (request s.database))

def databaseConnection (s : Settings) (driver : CursorDriver σ) : Connection (Cursors σ) :=
  Cursors.connection driver .question s.validate

end Settings

end QueryBook
