import QueryBook.Connection.Basic
import QueryBook.Data.Basic
import QueryBook.MarkedText
import QueryBook.StatementKind

set_option autoImplicit false

namespace QueryBook

structure Statement where
  source : String
  kind : StatementKind
  marked : MarkedText
  placement : Placement
  handle : Option Handle
  deriving DecidableEq, Repr

namespace Statement

variable {σ : Type}

def prepareText (conn : Connection σ) (sql : String) (parameters : Nat) : Action σ Handle :=
  Action.request (Error.wrapFault (some sql)) (conn.prepare sql parameters)

def create (conn : Connection σ) (style : Option MarkerStyle) (placement : Placement)
    (source : String) : Action σ Statement := do
  let (kind, sql) ← Action.ofExcept (StatementKind.classify source)
  let marked := MarkedText.ofText (style.getD conn.style) sql
  if marked.needsSubstitution then
    pure { source, kind, marked, placement, handle := none }
  else
    let handle ← prepareText conn marked.sql marked.bindNames.length
    pure { source, kind, marked, placement, handle := some handle }

def sql (s : Statement) : String :=
  s.marked.sql

def parameters (s : Statement) (data : Fields) : Except Error (List Value) :=
  s.marked.bindNames.mapM (s.placement.resolve data)

def textFor (s : Statement) (data : Fields) : Except Error String :=
  s.marked.fill <$> s.marked.directNames.mapM (s.placement.resolveText data)

def listing (s : Statement) : String :=
  "CompiledStatement(kind=" ++ Text.quoted s.kind.name ++ ", sql=" ++ Text.quoted s.sql ++ ")"

end Statement

end QueryBook
