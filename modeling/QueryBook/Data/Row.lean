import QueryBook.Data.Basic

set_option autoImplicit false

namespace QueryBook.Placement

def storeScalar (placement : Placement) (data : Fields) (key : String) (value : Value) :
    Except Error Fields :=
  let held := data.get? key
  let shape := Value.shapeAt data key
  match placement with
  | .plain =>
    if shape = .mapping ∨ shape = .sequence then .error (.storeScalar key shape)
    else .ok (data.put key value)
  | .arrays =>
    match held with
    | some (.list (_ :: later)) => .ok (data.put key (.list (value :: later)))
    | some (.list []) => .ok (data.put key (.list [value]))
    | _ =>
      if shape = .missing then .ok (data.put key (.list [value]))
      else .error (.storeElement key shape)

def storeField (placement : Placement) (data : Fields) (group field : String) (value : Value) :
    Except Error Fields :=
  let held := data.get? group
  let shape := Value.shapeAt data group
  match placement with
  | .plain =>
    match held with
    | some (.record fields) => .ok (data.put group (.record (Keyed.put fields field value)))
    | _ =>
      if shape = .missing then .ok (data.put group (.record [(field, value)]))
      else .error (.storeFields group shape)
  | .arrays =>
    match held with
    | some (.list []) => .ok (data.put group (.list [.record [(field, value)]]))
    | some (.list (.record fields :: later)) =>
      .ok (data.put group (.list (.record (Keyed.put fields field value) :: later)))
    | _ =>
      if shape = .missing then .ok (data.put group (.list [.record [(field, value)]]))
      else .error (.storeElementFields group shape)

def storeColumn (placement : Placement) (data : Fields) (label : String) (value : Value) :
    Except Error Fields :=
  match splitLabel label with
  | (none, key) => placement.storeScalar data key value
  | (some group, field) => placement.storeField data group field value

def mergeRow (placement : Placement) : Fields → Action Fields Unit
  | [], data => .ok () data
  | (label, value) :: rest, data =>
    match placement.storeColumn data label value with
    | .ok data => placement.mergeRow rest data
    | .error e => .error e data

end QueryBook.Placement

namespace QueryBook

structure Columns where
  groups : Keyed (List (String × String))
  bare : List String

namespace Columns

def add (columns : Columns) (label : String) : Columns :=
  match splitLabel label with
  | (none, _) => { columns with bare := columns.bare ++ [label] }
  | (some group, field) =>
    let fields := (columns.groups.get? group).getD []
    { columns with groups := columns.groups.put group (fields ++ [(label, field)]) }

def ofLabels (labels : List String) : Columns :=
  labels.foldl add ⟨[], []⟩

def targets (columns : Columns) : List String :=
  columns.groups.keys ++ columns.bare

end Columns

namespace Data

def cell (row : Fields) (label : String) : Value :=
  (row.get? label).getD .null

def groupRow (fields : List (String × String)) (row : Fields) : Value :=
  .record (Keyed.ofList (fields.map fun (label, field) => (field, cell row label)))

def occupied? (data : Fields) (keys : List String) : Option String :=
  keys.find? fun key =>
    Value.shapeAt data key == .scalar || Value.shapeAt data key == .mapping

-- Replaces each target by the rows: a group by one record for every row, another key by the cells
-- of its column. Nothing is written when a target is occupied.
def assignRows (data : Fields) (labels : List String) (rows : List Fields) : Except Error Fields :=
  let columns := Columns.ofLabels labels
  match occupied? data columns.targets with
  | some key => .error (.storeRows key (Value.shapeAt data key))
  | none =>
    let grouped :=
      columns.groups.foldl
        (fun data (group, fields) => Keyed.put data group (.list (rows.map (groupRow fields)))) data
    .ok <|
      columns.bare.foldl
        (fun data label => Keyed.put data label (.list (rows.map (cell · label)))) grouped

end Data

end QueryBook
