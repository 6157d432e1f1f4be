import QueryBook.MarkerStyle
import QueryBook.Piece.Scan

set_option autoImplicit false

namespace QueryBook

structure MarkedText where
  style : MarkerStyle
  head : String
  tail : List (String × String)
  bindNames : List String
  deriving DecidableEq, Repr

namespace MarkedText

def directNames (t : MarkedText) : List String :=
  t.tail.map (·.1)

def segments (t : MarkedText) : List String :=
  t.head :: t.tail.map (·.2)

def needsSubstitution (t : MarkedText) : Bool :=
  !t.tail.isEmpty

theorem segments_length (t : MarkedText) : t.segments.length = t.directNames.length + 1 := by
  simp [segments, directNames]

def splice (head : String) (tail : List (String × String)) : String :=
  head ++ String.join (tail.map fun (inserted, segment) => inserted ++ segment)

def sql (t : MarkedText) : String :=
  splice t.head (t.tail.map fun (name, segment) => ("$" ++ name, segment))

def fill (t : MarkedText) (values : List String) : String :=
  splice t.head ((values.map t.style.escapeText).zip (t.tail.map (·.2)))

def render (t : MarkedText) (values : List String) : Except Error String :=
  if values.length = t.tail.length then .ok (t.fill values)
  else .error (.valueCount t.tail.length values.length)

theorem render_eq_ok_iff (t : MarkedText) (values : List String) (text : String) :
    t.render values = .ok text ↔ values.length = t.directNames.length ∧ text = t.fill values := by
  by_cases same : values.length = t.tail.length <;>
    simp [render, directNames, same, eq_comm]

def ofParts (style : MarkerStyle) (segments bindNames directNames : List String) :
    Except Error MarkedText :=
  match segments with
  | [] => .error .segmentCount
  | head :: rest =>
    if rest.length = directNames.length then .ok ⟨style, head, directNames.zip rest, bindNames⟩
    else .error .segmentCount

def layOut (style : MarkerStyle) (position : Nat) :
    List Piece → List Char × List (String × List Char)
  | [] => ([], [])
  | .bind _ :: rest =>
    let (head, tail) := layOut style (position + 1) rest
    ((style.marker position).toList ++ head, tail)
  | .direct name :: rest =>
    let (head, tail) := layOut style position rest
    ([], (String.ofList name, head) :: tail)
  | p :: rest =>
    let (head, tail) := layOut style position rest
    (style.escape p.chars ++ head, tail)

def ofPieces (style : MarkerStyle) (pieces : List Piece) : MarkedText :=
  let (head, tail) := layOut style 1 pieces
  { style
    head := String.ofList head
    tail := tail.map fun (name, segment) => (name, String.ofList segment)
    bindNames := pieces.filterMap Piece.bindName? }

def ofText (style : MarkerStyle) (sql : String) : MarkedText :=
  ofPieces style (Piece.ofText sql)

theorem layOut_names (style : MarkerStyle) (position : Nat) (pieces : List Piece) :
    (layOut style position pieces).2.map (·.1) = pieces.filterMap Piece.directName? := by
  induction pieces generalizing position with
  | nil => rfl
  | cons p rest ih => cases p <;> simp [layOut, Piece.directName?, List.filterMap_cons, ih]

theorem names_ofText (style : MarkerStyle) (sql : String) :
    (ofText style sql).bindNames = (Piece.ofText sql).filterMap Piece.bindName? ∧
      (ofText style sql).directNames = (Piece.ofText sql).filterMap Piece.directName? := by
  refine ⟨rfl, ?_⟩
  rw [← layOut_names style 1]
  simp [ofText, ofPieces, directNames]

def listing (t : MarkedText) : String :=
  "ParsedSQL(sql=" ++ Text.quoted t.sql ++ ", bind_names=" ++ tupleTexts t.bindNames ++
    ", direct_names=" ++ tupleTexts t.directNames ++ ")"

end MarkedText

end QueryBook
