import QueryBook.CommandLine.Basic
import QueryBook.Console.Markup
import QueryBook.Console.Table
import QueryBook.Json.Printer

set_option autoImplicit false

namespace QueryBook.CommandLine

def Screen.width : Nat := 4000

def Screen.wide : Screen where
  escape := Console.escape
  markup := fun text => do
    let text ← Console.render text
    pure ((Console.wrap width .folded text).map fun line => String.ofList line.chars)
  table := fun title header cells => do
    let cells ← cells.mapM Console.render
    let table : Console.Table := ⟨title, .ofChars header.toList, cells⟩
    pure ((table.lines width).map String.ofList)
  data := fun fields =>
    let text := Json.pretty 0 (.record fields)
    .ok ((Text.splitOn '\n' text.toList).map String.ofList)

end QueryBook.CommandLine
