import QueryBook.Book.Session
import QueryBook.Compile
import QueryBook.Statement.Run

set_option autoImplicit false

namespace QueryBook

structure Call (σ : Type) extends Desk σ where
  data : Fields
  session : Session

namespace Call

variable {σ α : Type}

def onDesk (act : Action (Desk σ) α) : Action (Call σ) α :=
  Action.focus Call.toDesk (fun call desk => { call with toDesk := desk }) act

def onSession (act : Action Session α) : Action (Call σ) α :=
  Action.focus Call.session (fun call session => { call with session }) act

def stage (call : Call σ) : Stage σ :=
  ⟨⟨call.conn, call.journal⟩, call.data⟩

def setStage (call : Call σ) (stage : Stage σ) : Call σ :=
  { call with conn := stage.conn, journal := stage.journal, data := stage.data }

def onStage (act : Action (Stage σ) α) : Action (Call σ) α :=
  Action.focus stage setStage act

def runStatement (conn : Connection σ) (s : Statement) : Action (Call σ) Unit := do
  let affected ← onStage (s.execute conn)
  onSession (modify fun session => { session with affected := session.affected + affected })

def runEntries (conn : Connection σ) (runTag : String → Action (Call σ) Unit) :
    List ChainEntry → Action (Call σ) Unit
  | [] => pure ()
  | .statement s :: rest => do
    runStatement conn s
    runEntries conn runTag rest
  | .inclusion tag :: rest => do
    runTag tag
    runEntries conn runTag rest

def within (tag : String) (act : Action (Call σ) Unit) : Action (Call σ) Unit := do
  onSession (modify (·.push tag))
  act.andThen fun call => { call with session := call.session.pop }

def noteInclude (tag : String) : Action (Call σ) Unit := do
  let parent := (← get).session.stack.getLastD ""
  onDesk <| Desk.onCatalog <| Catalog.note <|
    .ofTag "librarian" ("EXECUTE " ++ tag ++ " (included from " ++ parent ++ ")") tag

-- Runs the chain of an included tag; `room` is the number of tags that the stack may still grow by,
-- out of `limit`.
def runInclude (c : Compiler σ) (limit room : Nat) (tag : String) : Action (Call σ) Unit := do
  let stack := (← get).session.stack
  if tag ∈ stack then throw (.includeCycle (stack ++ [tag]))
  match room with
  | 0 => throw (.includeDepth limit (stack ++ [tag]))
  | room + 1 =>
    let chain ← onDesk (c.get tag)
    noteInclude tag
    within tag (runEntries c.connection (runInclude c limit room) chain.entries)

def runChain (c : Compiler σ) (limit : Nat) (chain : Chain) : Action (Call σ) Unit :=
  runEntries c.connection (runInclude c limit (limit - 1)) chain.entries

end Call

end QueryBook
