import QueryBook.Book.Call

set_option autoImplicit false

namespace QueryBook

structure Setup (σ : Type) where
  connection : Connection σ
  placement : Placement
  style : Option MarkerStyle
  warnBareColumns : Bool
  dialect : Option String
  parse : QueryParser
  maxDepth : Nat

structure Book (σ : Type) extends Desk σ where
  library : Library
  connected : Bool
  autocommit : Bool

structure Turn (σ : Type) extends Book σ where
  data : Fields

namespace Setup

variable {σ : Type}

def compiler (setup : Setup σ) (library : Library) : Compiler σ where
  connection := setup.connection
  library
  placement := setup.placement
  style := setup.style
  warnBareColumns := setup.warnBareColumns
  dialect := setup.dialect
  parse := setup.parse

end Setup

namespace Book

variable {σ α : Type}

def onDesk (act : Action (Desk σ) α) : Action (Book σ) α :=
  Action.focus Book.toDesk (fun book desk => { book with toDesk := desk }) act

def onCatalog (act : Action Catalog α) : Action (Book σ) α :=
  onDesk (Desk.onCatalog act)

def note (message : String) : Action (Book σ) Unit :=
  onCatalog (Catalog.note (.debug "librarian" message))

def noteTag (message tag : String) : Action (Book σ) Unit :=
  onCatalog (Catalog.note (.ofTag "librarian" message tag))

def ensureConnected : Action (Book σ) Unit := do
  if !(← get).connected then throw .disconnected

def ask (request : Request σ α) : Action (Book σ) α :=
  onDesk (Desk.onConn (Action.request (Error.wrapFault none) request))

def commit (setup : Setup σ) : Action (Book σ) Unit := do
  note "COMMIT"
  ensureConnected
  ask setup.connection.commit

def rollback (setup : Setup σ) : Action (Book σ) Unit := do
  note "ROLLBACK"
  ensureConnected
  ask setup.connection.rollback

def setAutocommit (enabled : Bool) : Action (Book σ) Unit :=
  modify fun book => { book with autocommit := enabled }

def disconnect (setup : Setup σ) : Action (Book σ) Unit := do
  let wasConnected := (← get).connected
  modify fun book => { book with connected := false }
  onCatalog Catalog.clear
  if wasConnected then
    note "DISCONNECT"
    ask setup.connection.close

def withBook (setup : Setup σ) (use : Action (Book σ) α) : Action (Book σ) α :=
  use.endingWith (disconnect setup)

def library? : Action (Book σ) Library := do
  pure (← get).library

def toc : Action (Book σ) (List String) := do
  ensureConnected
  onCatalog (Catalog.toc (← library?))

def hasTag (tag : String) : Action (Book σ) Bool := do
  pure ((← toc).contains tag)

def lookup (tag : String) : Action (Book σ) (Option Chain) := do
  onCatalog (Catalog.lookup (← library?) tag)

def get (setup : Setup σ) (tag : String) : Action (Book σ) Chain := do
  ensureConnected
  onDesk ((setup.compiler (← library?)).get tag)

def compile (setup : Setup σ) (tag : String) : Action (Book σ) Chain := do
  ensureConnected
  onDesk ((setup.compiler (← library?)).compile tag)

def prepareTag (setup : Setup σ) (tag : String) : Action (Book σ) Unit := do
  match ← lookup tag with
  | some _ => pure ()
  | none => discard (compile setup tag)

def prepare (setup : Setup σ) (tags : List String) : Action (Book σ) Unit := do
  ensureConnected
  tags.forM (prepareTag setup)

def add (tag sql : String) : Action (Book σ) Unit :=
  modify fun book => { book with library := book.library.add tag sql }

def remove (tag : String) : Action (Book σ) Unit := do
  onCatalog (Catalog.invalidate tag)
  modify fun book => { book with library := book.library.remove tag }

def listing (book : Book σ) : String :=
  "Librarian(archiver=" ++ book.library.shelf.listing ++ ", autocommit=" ++
    (Value.bool book.autocommit).listing ++ ", " ++
    (if book.connected then "connected" else "disconnected") ++ ")"

end Book

namespace Turn

variable {σ α : Type}

def onBook (act : Action (Book σ) α) : Action (Turn σ) α :=
  Action.focus Turn.toBook (fun turn book => { turn with toBook := book }) act

def runChain (setup : Setup σ) (tag : String) (chain : Chain) : Action (Turn σ) Int := fun turn =>
  let after (call : Call σ) : Turn σ := { turn with toDesk := call.toDesk, data := call.data }
  match Call.runChain (setup.compiler turn.library) setup.maxDepth chain
      ⟨turn.toDesk, turn.data, .start tag⟩ with
  | .ok () call => .ok call.session.affected (after call)
  | .error e call => .error e (after call)

-- Takes a failed run back. When that fails too, its error is the one that shows.
def abandon (setup : Setup σ) (tag : String) (e : Error) : Action (Turn σ) α := do
  onBook (Book.noteTag ("ROLLBACK " ++ tag) tag)
  onBook (Book.rollback setup)
  throw e

def execute (setup : Setup σ) (tag : String) : Action (Turn σ) Int := do
  let chain ← onBook (Book.get setup tag)
  onBook (Book.noteTag ("EXECUTE " ++ tag) tag)
  let affected ← (runChain setup tag chain).rescue (abandon setup tag)
  if affected ≠ 0 ∧ (← get).autocommit then
    onBook (Book.commit setup)
  pure affected

end Turn

end QueryBook
