import QueryBook.Data.Row
import QueryBook.Statement.Basic

set_option autoImplicit false

namespace QueryBook

structure Stage (σ : Type) extends Link σ where
  data : Fields

namespace Stage

variable {σ α : Type}

def onLink (act : Action (Link σ) α) : Action (Stage σ) α :=
  Action.focus Stage.toLink (fun stage link => { stage with toLink := link }) act

def onData (act : Action Fields α) : Action (Stage σ) α :=
  Action.focus Stage.data (fun stage data => { stage with data }) act

end Stage

namespace Statement

variable {σ : Type}

def ready (conn : Connection σ) (s : Statement) (data : Fields) : Action σ (String × Handle) :=
  match s.handle with
  | some handle => pure (s.sql, handle)
  | none => do
    let sql ← Action.ofExcept (s.textFor data)
    let handle ← prepareText conn sql s.marked.bindNames.length
    pure (sql, handle)

def ask {α : Type} (sql : String) (request : Request σ α) : Action (Stage σ) α :=
  Stage.onLink (Link.onConn (Action.request (Error.wrapFault (some sql)) request))

def storeRows (conn : Connection σ) (sql : String) (handle : Handle) : Action (Stage σ) Unit := do
  let labels ← ask sql (conn.describe handle)
  let rows ← ask sql (conn.fetchAll handle)
  Stage.onData fun data =>
    match Data.assignRows data labels rows with
    | .ok data => .ok () data
    | .error e => .error e data

-- The columns of the only row of the result. What was written stays when a second row follows.
def storeRow (conn : Connection σ) (placement : Placement) (required : Bool) (sql : String)
    (handle : Handle) : Action (Stage σ) Unit := do
  match ← ask sql (conn.fetch handle) with
  | none => if required then throw (.noResult (some sql))
  | some row =>
    Stage.onData (placement.mergeRow row)
    match ← ask sql (conn.fetch handle) with
    | none => pure ()
    | some _ => throw (.multipleResults (some sql))

def collect (conn : Connection σ) (s : Statement) (sql : String) (handle : Handle)
    (affected : Option Int) : Action (Stage σ) Nat := do
  match s.kind with
  | .mutation => pure (affected.getD 0).toNat
  | .zeroOrMore =>
    storeRows conn sql handle
    pure 0
  | .zeroOrOne =>
    storeRow conn s.placement false sql handle
    pure 0
  | .exactlyOne =>
    storeRow conn s.placement true sql handle
    pure 0

def execute (conn : Connection σ) (s : Statement) : Action (Stage σ) Nat := do
  let data := (← get).data
  let (sql, handle) ← Stage.onLink (Link.onConn (s.ready conn data))
  let parameters ← Action.ofExcept (s.parameters data)
  Stage.onLink
    (Link.note (.debug "statement" ("SQL " ++ sql ++ " " ++ (Value.list parameters).listing)))
  let affected ← ask sql (conn.execute handle parameters)
  s.collect conn sql handle affected

end Statement

end QueryBook
