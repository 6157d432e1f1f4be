import QueryBook.CommandLine.Arguments
import QueryBook.Json.Reader

set_option autoImplicit false

namespace QueryBook.CommandLine

def helpOption : String × Bool := ("--help", false)

namespace Place

def options : Options :=
  [("--lib", true), ("--extension", true), ("--many-per-file", false), ("--database", true),
   ("--no-validate", false), ("--trace", false), ("--log-level", true), ("--log-format", true),
   helpOption]

def logLevels : List String := ["DEBUG", "INFO", "WARNING", "ERROR", "CRITICAL"]

def logStyles : List String := ["structured", "simple"]

def choose (option : String) (choices : List String) (same : String → String → Bool)
    (value : String) : Except Misuse String :=
  match choices.find? (same value) with
  | some choice => .ok choice
  | none => .error (.notAChoice option value)

def leadsToFile (tree : FileTree) (path : String) : Bool :=
  let last := ((Text.splitOn '/' path.toList).getLast?).getD []
  last ≠ [] && last ≠ ['.'] && (tree.file? (Path.ofText path)).isSome

-- A directory need not be there, but may not be a file.
def checkDirectory (tree : FileTree) (path : String) : Except Misuse Unit :=
  if leadsToFile tree path then .error (.notADirectory path) else .ok ()

def ofGiven (tree : FileTree) (given : Given) : Except Misuse Place := do
  (given.values "--lib").forM (checkDirectory tree)
  let level ← (given.value? "--log-level").mapM
    (choose "--log-level" logLevels fun value level => value.toUpper == level)
  let style ← (given.value? "--log-format").mapM (choose "--log-format" logStyles (· == ·))
  pure
    { lib := if given.values "--lib" = [] then ["sql"] else given.values "--lib"
      extension := (given.value? "--extension").getD "sql"
      manyPerFile := given.hasFlag "--many-per-file"
      database := given.value? "--database"
      validate := !given.hasFlag "--no-validate"
      trace := given.hasFlag "--trace"
      logLevel := level
      logStyle := style.getD "structured" }

end Place

namespace Command

def options? (name : String) : Option Options :=
  match name with
  | "toc" => some [helpOption]
  | "prepare" => some [helpOption]
  | "execute" => some [("--data", true), ("--no-commit", false), helpOption]
  | _ => none

def ofGiven (name : String) (given : Given) : Except Misuse Command :=
  match name, given.rest with
  | "toc", [] => .ok .toc
  | "toc", args => .error (.extraArguments args)
  | "prepare", [] => .error (.noArgument "TAGS")
  | "prepare", tags => .ok (.prepare tags)
  | _, [] => .error (.noArgument "TAG")
  | _, [tag] => .ok (.execute tag (given.value? "--data") !(given.hasFlag "--no-commit"))
  | _, _ :: args => .error (.extraArguments args)

end Command

-- An option that asks for help comes before what is wrong with the values of others.
def Invocation.ofArguments (tree : FileTree) (args : List String) : Except Misuse Invocation := do
  let given ← read Place.options false args
  if given.hasFlag "--help" then return .help
  let place ← Place.ofGiven tree given
  match given.rest with
  | [] => throw .noCommand
  | name :: args =>
    match Command.options? name with
    | none => throw (.unknownCommand name)
    | some options =>
      let given ← read options true args
      if given.hasFlag "--help" then return .help
      pure (.run place (← Command.ofGiven name given))

def Reader.plain : Reader where
  arguments := Invocation.ofArguments
  decode := fun text =>
    match Json.parse text with
    | .ok v => .ok v
    | .error .malformed => .error .malformed
    | .error .tooDeep => .error (.broken .tooDeep)

end QueryBook.CommandLine
