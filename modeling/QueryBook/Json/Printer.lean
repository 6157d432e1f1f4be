import QueryBook.Text.Base64
import QueryBook.Value.Text

set_option autoImplicit false

namespace QueryBook.Json

def escapeChar (c : Char) : List Char :=
  match c with
  | '"' => ['\\', '"']
  | '\\' => ['\\', '\\']
  | '\n' => ['\\', 'n']
  | '\r' => ['\\', 'r']
  | '\t' => ['\\', 't']
  | '\x08' => ['\\', 'b']
  | '\x0c' => ['\\', 'f']
  | c => if c.toNat < 32 then '\\' :: 'u' :: Text.hexDigits 4 c.toNat else [c]

def quoted (s : String) : String :=
  String.ofList ('"' :: s.toList.flatMap escapeChar ++ ['"'])

def floatText (x : Float) : String :=
  if x.isFinite then Decimal.dataLayout.text x else "null"

def spaces (n : Nat) : String :=
  String.ofList (List.replicate n ' ')

mutual

def pretty (indent : Nat) : Value → String
  | .null => "null"
  | .bool true => "true"
  | .bool false => "false"
  | .int i => toString i
  | .float x => floatText x
  | .text s => quoted s
  | .bytes data | .buffer data => quoted (Text.base64 data)
  | .list [] | .tuple [] => "[]"
  | .list items | .tuple items =>
    "[\n" ++ String.intercalate ",\n" (prettyItems (indent + 2) items) ++ "\n" ++
      spaces indent ++ "]"
  | .record [] => "\x7b\x7d"
  | .record fields =>
    "\x7b\n" ++ String.intercalate ",\n" (prettyFields (indent + 2) fields) ++ "\n" ++
      spaces indent ++ "\x7d"
  | .frozen fields => quoted (Value.frozen fields).display

def prettyItems (indent : Nat) : List Value → List String
  | [] => []
  | item :: rest => (spaces indent ++ pretty indent item) :: prettyItems indent rest

def prettyFields (indent : Nat) : List (String × Value) → List String
  | [] => []
  | (name, value) :: rest =>
    (spaces indent ++ quoted name ++ ": " ++ pretty indent value) :: prettyFields indent rest

end

mutual

def compact : Value → String
  | .null => "null"
  | .bool true => "true"
  | .bool false => "false"
  | .int i => toString i
  | .float x => floatText x
  | .text s => quoted s
  | .bytes data | .buffer data => quoted (Text.base64 data)
  | .list items | .tuple items => "[" ++ String.intercalate "," (compactItems items) ++ "]"
  | .record fields => "\x7b" ++ String.intercalate "," (compactFields fields) ++ "\x7d"
  | .frozen fields => quoted (Value.frozen fields).display

def compactItems : List Value → List String
  | [] => []
  | item :: rest => compact item :: compactItems rest

def compactFields : List (String × Value) → List String
  | [] => []
  | (name, value) :: rest => (quoted name ++ ":" ++ compact value) :: compactFields rest

end

end QueryBook.Json
