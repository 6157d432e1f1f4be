import QueryBook.Keyed

set_option autoImplicit false

namespace QueryBook

inductive Value where
  | null
  | bool (b : Bool)
  | int (i : Int)
  | float (x : Float)
  | text (s : String)
  | bytes (data : List UInt8)
  -- Bytes that their owner may change; they print in another way.
  | buffer (data : List UInt8)
  | list (items : List Value)
  | tuple (items : List Value)
  | record (fields : List (String × Value))
  | frozen (fields : List (String × Value))
  deriving Inhabited

abbrev Fields := Keyed Value

inductive Shape where
  | missing
  | scalar
  | mapping
  | sequence
  deriving DecidableEq, Repr

def Shape.name : Shape → String
  | .missing => "missing"
  | .scalar => "scalar"
  | .mapping => "mapping"
  | .sequence => "sequence"

namespace Value

def shape : Value → Shape
  | .null => .missing
  | .list _ | .tuple _ => .sequence
  | .record _ | .frozen _ => .mapping
  | .bool _ | .int _ | .float _ | .text _ | .bytes _ | .buffer _ => .scalar

def shapeAt (data : Fields) (key : String) : Shape :=
  match data.get? key with
  | some v => v.shape
  | none => .missing

def isParameter (v : Value) : Bool :=
  match v.shape with
  | .missing | .scalar => true
  | .mapping | .sequence => false

-- Zero, the empty text and everything else that is empty count as no value.
def isTruthy : Value → Bool
  | .null => false
  | .bool b => b
  | .int i => i ≠ 0
  | .float x => x != 0.0
  | .text s => s ≠ ""
  | .bytes data | .buffer data => !data.isEmpty
  | .list items | .tuple items => !items.isEmpty
  | .record fields | .frozen fields => !fields.isEmpty

end Value

end QueryBook
