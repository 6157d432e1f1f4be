import QueryBook.Decimal.Text
import QueryBook.Text.Quoted
import QueryBook.Value.Basic

set_option autoImplicit false

namespace QueryBook.Value

def separated (texts : List String) : String :=
  String.intercalate ", " texts

mutual

def listing : Value → String
  | .null => "None"
  | .bool true => "True"
  | .bool false => "False"
  | .int i => toString i
  | .float x => Decimal.dataLayout.text x
  | .text s => Text.quoted s
  | .bytes data => Text.quotedBytes data
  | .buffer data => "bytearray(" ++ Text.quotedBytes data ++ ")"
  | .list items => "[" ++ separated (listings items) ++ "]"
  | .tuple [item] => "(" ++ listing item ++ ",)"
  | .tuple items => "(" ++ separated (listings items) ++ ")"
  | .record fields => "\x7b" ++ separated (fieldListings fields) ++ "\x7d"
  | .frozen fields => "mappingproxy(\x7b" ++ separated (fieldListings fields) ++ "\x7d)"

def listings : List Value → List String
  | [] => []
  | item :: rest => listing item :: listings rest

def fieldListings : List (String × Value) → List String
  | [] => []
  | (name, value) :: rest => (Text.quoted name ++ ": " ++ listing value) :: fieldListings rest

end

def display : Value → String
  | .text s => s
  | .frozen fields => (Value.record fields).listing
  | other => other.listing

end QueryBook.Value

namespace QueryBook

def listTexts (texts : List String) : String :=
  "[" ++ Value.separated (texts.map Text.quoted) ++ "]"

-- A tuple of texts, as listings show it: one text alone keeps its comma.
def tupleTexts : List String → String
  | [text] => "(" ++ Text.quoted text ++ ",)"
  | texts => "(" ++ Value.separated (texts.map Text.quoted) ++ ")"

end QueryBook
