import QueryBook.Files.Tree
import QueryBook.Log
import QueryBook.Settings

set_option autoImplicit false

namespace QueryBook.CommandLine

inductive Misuse where
  | unknownOption (name : String)
  | noValue (name : String)
  | unwantedValue (name : String)
  | notAChoice (name value : String)
  | notADirectory (path : String)
  | noCommand
  | unknownCommand (name : String)
  | noArgument (name : String)
  | extraArguments (given : List String)
  | dataNotJson
  | dataNotRecord
  deriving DecidableEq, Repr

def Misuse.message : Misuse → String
  | .unknownOption name => "No such option: " ++ name
  | .noValue name => "Option " ++ name ++ " requires an argument."
  | .unwantedValue name => "Option " ++ name ++ " does not take a value."
  | .notAChoice name value => "Invalid value for " ++ name ++ ": " ++ value
  | .notADirectory path => "Invalid value for --lib: " ++ path ++ " is a file."
  | .noCommand => "Missing command."
  | .unknownCommand name => "No such command: " ++ name
  | .noArgument name => "Missing argument: " ++ name
  | .extraArguments given => "Unexpected arguments: " ++ String.intercalate " " given
  | .dataNotJson => "Invalid value for --data: Invalid JSON"
  | .dataNotRecord => "Invalid value for --data: Expected a JSON object"

inductive Command where
  | toc
  | prepare (tags : List String)
  | execute (tag : String) (data : Option String) (commits : Bool)
  deriving DecidableEq, Repr

structure Place where
  lib : List String
  extension : String
  manyPerFile : Bool
  database : Option String
  validate : Bool
  trace : Bool
  logLevel : Option String
  logStyle : String
  deriving DecidableEq, Repr

inductive Invocation where
  | help
  | run (place : Place) (command : Command)
  deriving DecidableEq, Repr

namespace Place

-- What the place leaves open comes from the environment.
def settings (place : Place) (environment : Keyed String) : Except Error Settings :=
  let usual := SettingsDraft.initial environment
  { usual with
    lib := place.lib
    extension := place.extension
    database := place.database.getD usual.database
    validate := place.validate
    trace := place.trace : SettingsDraft }.check

def shelf (place : Place) (settings : Settings) : Shelf :=
  if place.manyPerFile then .files (.ofParts .manyPerFile place.lib place.extension .utf8)
  else settings.defaultShelf

def log (place : Place) : Except Error Log.State := do
  let log ←
    match place.logLevel with
    | some level => Log.State.initial.configure level place.logStyle none false
    | none => pure Log.State.initial
  pure (if place.trace then log.enableTrace else log)

end Place

inductive Undecoded where
  | malformed
  | broken (e : Error)
  deriving DecidableEq, Repr

structure Reader where
  arguments : FileTree → List String → Except Misuse Invocation
  decode : String → Except Undecoded Value

structure Screen where
  escape : String → String
  markup : String → Except Error (List String)
  table : String → String → List String → Except Error (List String)
  data : Fields → Except Error (List String)

end QueryBook.CommandLine
