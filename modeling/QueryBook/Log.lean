import QueryBook.Error.Basic
import QueryBook.Journal
import QueryBook.Text.Caseless
import QueryBook.Text.Search
import QueryBook.Value.Text

set_option autoImplicit false

namespace QueryBook

namespace Level

def named : List (String × Int) :=
  [("CRITICAL", 50), ("ERROR", 40), ("WARNING", 30), ("INFO", 20), ("DEBUG", 10), ("NOTSET", 0),
   ("FATAL", 50), ("WARN", 30)]

def ofName (name : String) : Except Error Int :=
  match Keyed.get? named (Text.capitals name) with
  | some level => .ok level
  | none => .error (.unknownLevel name)

def name (level : Int) : String :=
  match named.find? (·.2 == level) with
  | some (name, _) => name
  | none => "Level " ++ toString level

end Level

namespace Record

def fillIn : List Char → List String → List Char
  | '%' :: 's' :: rest, arg :: args => arg.toList ++ fillIn rest args
  | '%' :: '%' :: rest, args => '%' :: fillIn rest args
  | c :: rest, args => c :: fillIn rest args
  | [], _ => []

-- Without arguments a message is taken as it is.
def messageOf (format : String) (args : List Value) : String :=
  if args.isEmpty then format
  else String.ofList (fillIn format.toList (args.map Value.display))

def structured (r : Record) (exception : Option String) : Fields :=
  let base : Fields :=
    [("level", .text (Level.name r.level)), ("logger", .text r.logger),
     ("message", .text r.message)]
  let full := (r.extra.getD []).foldl (fun fs (name, v) => Keyed.put fs name v) base
  match exception with
  | some text => full.put "exception" (.text text)
  | none => full

end Record

def Fault.logText (fault : Fault) : String :=
  let (name, text) :=
    match fault with
    | .foreign name text => (name, text)
    | .library e _ => (e.kind.name, e.message)
  if text = "" then name else name ++ ": " ++ text

namespace Log

inductive Form where
  | structured
  | simple
  | trace
  deriving DecidableEq, Repr

inductive Handler where
  | console (form : Form)
  | file (path : String)
  | collector
  deriving DecidableEq, Repr

inductive Line where
  | text (s : String)
  | object (fields : Fields)

structure State where
  level : Int
  propagates : Bool
  handlers : List Handler
  deriving DecidableEq, Repr

def textLines (s : String) : List Line :=
  (Text.splitOn '\n' s.toList).map fun cs => .text (String.ofList cs)

def Form.lines (form : Form) (r : Record) : List Line :=
  match form with
  | .structured => [.object (r.structured none)]
  | .simple => textLines (r.logger ++ " - " ++ Level.name r.level ++ " - " ++ r.message)
  | .trace => textLines (r.logger ++ ": " ++ r.message)

namespace State

def initial : State := ⟨0, true, []⟩

def isUnderRoot (logger : String) : Bool :=
  logger == rootLogger || logger.startsWith (rootLogger ++ ".")

def handlersOf (s : State) (logger : String) : List Handler :=
  if isUnderRoot logger then s.handlers else []

def threshold (s : State) (logger : String) : Int :=
  if isUnderRoot logger ∧ s.level ≠ 0 then s.level else Level.warning

def shows (s : State) (r : Record) : Bool :=
  decide (s.threshold r.logger ≤ r.level) && decide (0 < r.level)

def consoleLines (s : State) (r : Record) : List Line :=
  if !s.shows r then []
  else
    match s.handlersOf r.logger with
    | [] => if Level.warning ≤ r.level then textLines r.message else []
    | handlers => handlers.flatMap fun
      | .console form => form.lines r
      | _ => []

def fileLines (s : State) (path : String) (r : Record) : List Line :=
  if s.shows r ∧ (s.handlersOf r.logger).contains (.file path) then Form.structured.lines r else []

def collects (s : State) (r : Record) : Bool :=
  s.shows r && (s.handlersOf r.logger).contains .collector

def configure (s : State) (level style : String) (file : Option String) (collect : Bool) :
    Except Error State :=
  match Level.ofName level with
  | .error e => .error e
  | .ok level =>
    let form : Form := if style = "structured" then .structured else .simple
    let files := ((file.filter (· ≠ "")).map Handler.file).toList
    let collectors := if collect then [Handler.collector] else []
    .ok { s with level, propagates := false, handlers := .console form :: files ++ collectors }

def enableTrace (s : State) : State :=
  { s with
    level := Level.debug
    handlers :=
      if s.handlers.contains (.console .trace) then s.handlers
      else s.handlers ++ [.console .trace] }

end State

end Log

end QueryBook
