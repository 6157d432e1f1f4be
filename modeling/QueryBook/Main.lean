import QueryBook.CommandLine.Invocation
import QueryBook.CommandLine.Run
import QueryBook.CommandLine.Screen
import QueryBook.Connection.Offline
import QueryBook.Projection

set_option autoImplicit false

namespace QueryBook.CommandLine

-- The files of the library are given on standard input, as one JSON record from paths to texts.
def filesOf (text : String) : FileTree :=
  match Json.parse? text with
  | some (.record files) =>
    files.foldl
      (fun tree (path, content) =>
        match content with
        | .text content => tree.write (Path.ofText path) content.toUTF8.data.toList 0
        | _ => tree)
      .empty
  | _ => .empty

def environment : IO (Keyed String) := do
  let database ← IO.getEnv Settings.databaseVariable
  pure (database.map (Settings.databaseVariable, ·)).toList

def lineText : Log.Line → String
  | .text s => s
  | .object fields => Json.compact (.record fields)

def tell (report : Report Unit) : IO UInt32 := do
  (report.journal.flatMap report.log.consoleLines).forM fun line => IO.eprintln (lineText line)
  IO.print report.output
  match report.ending with
  | .exit code => pure code.toUInt32
  | .misused misuse =>
    IO.eprintln ("Error: " ++ misuse.message)
    pure 2
  | .failed e =>
    IO.eprintln (e.kind.name ++ ": " ++ e.message)
    pure 1

end QueryBook.CommandLine

partial def readAll (input : IO.FS.Stream) (text : String) : IO String := do
  let line ← input.getLine
  if line.isEmpty then pure text else readAll input (text ++ line)

-- No database is attached: templates can be listed and compiled, but not run.
def main (args : List String) : IO UInt32 := do
  let text ← readAll (← IO.getStdin) ""
  let machine : QueryBook.CommandLine.Machine Unit :=
    { environment := ← QueryBook.CommandLine.environment
      files := QueryBook.CommandLine.filesOf text
      driver := .offline
      connect := fun _ => pure ()
      parse := QueryBook.Projection.parse
      reader := .plain
      screen := .wide }
  QueryBook.CommandLine.tell (machine.run args ())
