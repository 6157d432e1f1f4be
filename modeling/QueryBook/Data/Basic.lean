import QueryBook.Action
import QueryBook.Value.Text

set_option autoImplicit false

namespace QueryBook

inductive Placement where
  | plain
  | arrays
  deriving DecidableEq, Repr

namespace Value

def items? : Value → Option (List Value)
  | .list items | .tuple items => some items
  | _ => none

end Value

namespace Placement

def unwrap (placement : Placement) (key : String) (held : Value) : Except Error Value :=
  match placement with
  | .plain => .ok held
  | .arrays =>
    match held.items? with
    | some (first :: _) => .ok first
    | _ => .error (.noFirstElement key held.shape)

def resolve (placement : Placement) (data : Fields) (key : String) : Except Error Value :=
  match data.get? key with
  | none => .error (.missingValue key)
  | some held =>
    match placement.unwrap key held with
    | .error e => .error e
    | .ok v => if v.isParameter then .ok v else .error (.notScalar key v.shape)

def resolveText (placement : Placement) (data : Fields) (key : String) : Except Error String :=
  match placement.resolve data key with
  | .error e => .error e
  | .ok v => if v.shape = .missing then .error (.nullText key) else .ok v.display

theorem isParameter_of_resolve {placement : Placement} {data : Fields} {key : String} {v : Value}
    (resolved : placement.resolve data key = .ok v) : v.isParameter = true := by
  unfold resolve at resolved
  grind

end Placement

-- The group and the field that a column label names. Only the first dot divides them.
def splitLabel (label : String) : Option String × String :=
  let cs := label.toList
  let group := cs.takeWhile (· ≠ '.')
  match cs.dropWhile (· ≠ '.') with
  | _ :: field => (some (String.ofList group), String.ofList field)
  | [] => (none, label)

def dataListing (placement : Placement) (data : Fields) : String :=
  "DataContext(" ++ (Value.record data).listing ++ ", all_arrays=" ++
    (Value.bool (placement == .arrays)).listing ++ ")"

end QueryBook
