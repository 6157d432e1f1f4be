import QueryBook.Book.Open
import QueryBook.CommandLine.Basic

set_option autoImplicit false

namespace QueryBook.CommandLine

structure Machine (σ : Type) where
  environment : Keyed String
  files : FileTree
  driver : CursorDriver σ
  connect : String → Request σ Unit
  parse : QueryParser
  reader : Reader
  screen : Screen

structure Terminal (σ : Type) extends Turn σ where
  output : String

namespace Terminal

variable {σ α : Type}

def onTurn (act : Action (Turn σ) α) : Action (Terminal σ) α :=
  Action.focus Terminal.toTurn (fun terminal turn => { terminal with toTurn := turn }) act

def onBook (act : Action (Book σ) α) : Action (Terminal σ) α :=
  onTurn (Turn.onBook act)

def print (line : String) : Action (Terminal σ) Unit :=
  modify fun terminal => { terminal with output := terminal.output ++ line ++ "\n" }

def printLines (lines : Except Error (List String)) : Action (Terminal σ) Unit := do
  (← Action.ofExcept lines).forM print

def withBook (setup : Setup σ) (use : Action (Terminal σ) α) : Action (Terminal σ) α :=
  use.endingWith (onBook (Book.disconnect setup))

def attempt (screen : Screen) (what tag : String) (act : Action (Terminal σ) α) :
    Action (Terminal σ) (Option α) :=
  (some <$> act).rescue fun e => do
    if !e.isLibrary then throw e
    printLines <| screen.markup
      ("[red]Failed to " ++ what ++ " " ++ screen.escape tag ++ ": " ++ screen.escape e.message ++
        "[/]")
    pure none

def toc (setup : Setup σ) (screen : Screen) : Action (Terminal σ) Nat := do
  let tags ← withBook setup (onBook Book.toc)
  if tags = [] then
    printLines (screen.markup "[yellow]No templates found[/]")
  else
    printLines (screen.table "Templates" "Tag" tags)
  pure 0

-- Stops at the first tag that cannot be compiled.
def prepareEach (setup : Setup σ) (screen : Screen) : List String → Action (Terminal σ) Nat
  | [] => pure 0
  | tag :: rest => do
    match ← attempt screen "prepare" tag (onBook (Book.prepare setup [tag])) with
    | none => pure 1
    | some () =>
      printLines (screen.markup ("[green]Prepared " ++ screen.escape tag ++ "[/]"))
      prepareEach setup screen rest

-- Without `commits` the changes of the run are taken back in the end.
def execute (setup : Setup σ) (screen : Screen) (tag : String) (commits : Bool) :
    Action (Terminal σ) Nat := do
  let affected ← withBook setup do
    if !commits then onBook (Book.setAutocommit false)
    let affected ← attempt screen "execute" tag (onTurn (Turn.execute setup tag))
    if affected.isSome && !commits then
      onBook (Book.rollback setup)
      printLines (screen.markup "[yellow]Changes rolled back[/]")
    pure affected
  match affected with
  | none => pure 1
  | some affected =>
    printLines (screen.markup ("[green]" ++ toString affected ++ " row(s) affected[/]"))
    printLines (screen.data (← get).data)
    pure 0

def perform (setup : Setup σ) (screen : Screen) : Command → Action (Terminal σ) Nat
  | .toc => toc setup screen
  | .prepare tags => withBook setup (prepareEach setup screen tags)
  | .execute tag _ commits => execute setup screen tag commits

end Terminal

inductive Ending where
  | exit (code : Nat)
  | misused (misuse : Misuse)
  | failed (e : Error)

structure Report (σ : Type) where
  ending : Ending
  output : String
  log : Log.State
  journal : Journal
  state : σ

def Reader.data (reader : Reader) : Command → Except Ending Fields
  | .execute _ (some text) _ =>
    match reader.decode text with
    | .ok (.record fields) => .ok fields
    | .ok _ => .error (.misused .dataNotRecord)
    | .error .malformed => .error (.misused .dataNotJson)
    | .error (.broken e) => .error (.failed e)
  | _ => .ok []

namespace Machine

variable {σ : Type}

def command (m : Machine σ) (place : Place) (settings : Settings) (log : Log.State)
    (command : Command) (data : Fields) (s : σ) : Report σ :=
  match (settings.connect m.connect).outcome ⟨s, []⟩ with
  | (.error e, link) => ⟨.failed e, "", log, link.journal, link.conn⟩
  | (.ok (), link) =>
    let library : Library := ⟨place.shelf settings, m.files⟩
    let terminal : Terminal (Cursors σ) :=
      { toBook := settings.book library ⟨⟨link.conn, []⟩, link.journal⟩
        data
        output := "" }
    let setup := settings.setup m.parse (settings.databaseConnection m.driver)
    let (result, terminal) := (Terminal.perform setup m.screen command).outcome terminal
    let ending :=
      match result with
      | .ok code => .exit code
      | .error e => .failed e
    ⟨ending, terminal.output, log, terminal.journal, terminal.conn.driver⟩

def run (m : Machine σ) (args : List String) (s : σ) : Report σ :=
  let ended (ending : Ending) (output : List String) : Report σ :=
    ⟨ending, String.join (output.map (· ++ "\n")), .initial, [], s⟩
  match m.reader.arguments m.files args with
  | .error misuse => ended (.misused misuse) []
  | .ok .help => ended (.exit 0) []
  | .ok (.run place command) =>
    match place.log, place.settings m.environment with
    | .error e, _ => ended (.failed e) []
    | _, .error e =>
      match m.screen.markup ("[red]Error in configuration: " ++ m.screen.escape e.message ++ "[/]")
      with
      | .ok lines => ended (.exit 1) lines
      | .error e => ended (.failed e) []
    | .ok log, .ok settings =>
      match m.reader.data command with
      | .error ending => ended ending []
      | .ok data => m.command place settings log command data s

end Machine

end QueryBook.CommandLine
