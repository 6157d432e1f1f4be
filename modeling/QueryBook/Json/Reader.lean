import QueryBook.Json.Token

set_option autoImplicit false

namespace QueryBook.Json

-- A list or record whose end has not been read yet; the items of a list are kept backwards.
inductive Open where
  | list (items : List Value)
  | record (fields : Fields)
  | field (fields : Fields) (name : String)

inductive Expect where
  | value
  | firstItem
  | firstField
  | name
  | colon
  | separator

inductive State where
  | reading (expect : Expect) (stack : List Open)
  | finished (v : Value)

def accept (v : Value) : List Open → Option State
  | [] => some (.finished v)
  | .list items :: stack => some (.reading .separator (.list (v :: items) :: stack))
  | .field fields name :: stack => some (.reading .separator (.record (fields.put name v) :: stack))
  | .record _ :: _ => none

def begin (stack : List Open) : Token → Option State
  | .atom v => accept v stack
  | .text s => accept (.text s) stack
  | .openList => some (.reading .firstItem (.list [] :: stack))
  | .openRecord => some (.reading .firstField (.record [] :: stack))
  | _ => none

def step : State → Token → Option State
  | .finished _, _ => none
  | .reading .firstItem (.list _ :: stack), .closeList => accept (.list []) stack
  | .reading .firstField (.record _ :: stack), .closeRecord => accept (.record []) stack
  | .reading .value stack, token => begin stack token
  | .reading .firstItem stack, token => begin stack token
  | .reading .firstField (.record fields :: stack), .text s =>
    some (.reading .colon (.field fields s :: stack))
  | .reading .name (.record fields :: stack), .text s =>
    some (.reading .colon (.field fields s :: stack))
  | .reading .colon stack, .colon => some (.reading .value stack)
  | .reading .separator (.list items :: stack), .comma =>
    some (.reading .value (.list items :: stack))
  | .reading .separator (.record fields :: stack), .comma =>
    some (.reading .name (.record fields :: stack))
  | .reading .separator (.list items :: stack), .closeList => accept (.list items.reverse) stack
  | .reading .separator (.record fields :: stack), .closeRecord => accept (.record fields) stack
  | _, _ => none

inductive Refusal where
  | malformed
  | tooDeep
  deriving DecidableEq, Repr

-- How many lists and records may be open at once.
def deepest : Nat := 980

def State.depth : State → Nat
  | .reading _ stack => stack.length
  | .finished _ => 0

def advance (state : State) (token : Token) : Except Refusal State :=
  match step state token with
  | none => .error .malformed
  | some next => if next.depth ≤ deepest then .ok next else .error .tooDeep

def parse (text : String) : Except Refusal Value := do
  match ← (tokens text.toList).foldlM advance (.reading .value []) with
  | .finished v => .ok v
  | .reading .. => .error .malformed

def parse? (text : String) : Option Value :=
  (parse text).toOption

end QueryBook.Json
