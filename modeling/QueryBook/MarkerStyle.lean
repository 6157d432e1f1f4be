import QueryBook.Error.Basic

set_option autoImplicit false

namespace QueryBook

inductive MarkerStyle where
  | question
  | dollar
  | colon
  | percent
  deriving DecidableEq, Repr

namespace MarkerStyle

def name : MarkerStyle → String
  | .question => "qmark"
  | .dollar => "numeric"
  | .colon => "positional_colon"
  | .percent => "pyformat_positional"

def all : List MarkerStyle :=
  [.question, .dollar, .colon, .percent]

def ofName? (name : String) : Option MarkerStyle :=
  all.find? (·.name == name)

def ofName (name : String) : Except Error MarkerStyle :=
  match ofName? name with
  | some style => .ok style
  | none => .error (.notAStyle name)

-- The marker of a parameter; positions count from one.
def marker (style : MarkerStyle) (position : Int) : String :=
  match style with
  | .question => "?"
  | .dollar => "$" ++ toString position
  | .colon => ":" ++ toString position
  | .percent => "%s"

-- The percent style doubles every percent sign outside a marker; the other styles have no escape.
def escape (style : MarkerStyle) (cs : List Char) : List Char :=
  match style with
  | .percent => cs.flatMap fun c => if c = '%' then ['%', '%'] else [c]
  | _ => cs

@[simp] theorem escape_nil (style : MarkerStyle) : style.escape [] = [] := by
  cases style <;> rfl

theorem escape_append (style : MarkerStyle) (a b : List Char) :
    style.escape (a ++ b) = style.escape a ++ style.escape b := by
  cases style <;> simp [escape]

def escapeText (style : MarkerStyle) (text : String) : String :=
  String.ofList (style.escape text.toList)

end MarkerStyle

end QueryBook
