import QueryBook.Text.Utf8

set_option autoImplicit false

namespace QueryBook

inductive Encoding where
  | utf8
  | utf8Marked
  | latin1
  deriving DecidableEq, Repr

namespace Encoding

def ofName (name : String) : Encoding :=
  match name with
  | "utf-8-sig" => .utf8Marked
  | "latin-1" => .latin1
  | _ => .utf8

def byteOrderMark : List UInt8 := [0xEF, 0xBB, 0xBF]

-- A text that ends within the mark is empty; after the mark, positions count from its end.
def afterMark (data : List UInt8) : List UInt8 :=
  if data.isPrefixOf byteOrderMark then []
  else if byteOrderMark.isPrefixOf data then data.drop byteOrderMark.length
  else data

def chars : Encoding → List UInt8 → Except Text.Utf8.Fault (List Char)
  | .utf8, data => Text.Utf8.decode data
  | .utf8Marked, data => Text.Utf8.decode (afterMark data)
  | .latin1, data => .ok (data.map fun b => Char.ofNat b.toNat)

def unifyLineEnds : List Char → List Char
  | '\r' :: '\n' :: rest => '\n' :: unifyLineEnds rest
  | '\r' :: rest => '\n' :: unifyLineEnds rest
  | c :: rest => c :: unifyLineEnds rest
  | [] => []

def decode (encoding : Encoding) (data : List UInt8) : Except Text.Utf8.Fault (List Char) :=
  unifyLineEnds <$> encoding.chars data

end Encoding

end QueryBook
