import QueryBook.CommandLine.Basic
import QueryBook.Text.Search

set_option autoImplicit false

namespace QueryBook.CommandLine

abbrev Options := Keyed Bool

structure Given where
  options : List (String × Option String)
  rest : List String
  deriving DecidableEq, Repr

namespace Given

def hasFlag (given : Given) (name : String) : Bool :=
  given.options.any (·.1 == name)

def values (given : Given) (name : String) : List String :=
  given.options.filterMap fun (other, value) => if other = name then value else none

def value? (given : Given) (name : String) : Option String :=
  (given.values name).getLast?

def withOption (given : Given) (name : String) (value : Option String) : Given :=
  { given with options := (name, value) :: given.options }

def withArgument (given : Given) (arg : String) : Given :=
  { given with rest := arg :: given.rest }

end Given

def isOption (arg : String) : Bool :=
  arg.startsWith "-" && arg ≠ "-"

def nameAndValue (arg : String) : String × Option String :=
  match Text.breakAt? ['='] arg.toList with
  | some (name, value) => (String.ofList name, some (String.ofList value))
  | none => (arg, none)

-- The value of an option is written after an equals sign or is the next argument. Where options may
-- not be `scattered`, the first argument that is none ends them.
def read (known : Options) (scattered : Bool) : List String → Except Misuse Given
  | [] => .ok ⟨[], []⟩
  | arg :: rest =>
    if arg = "--" then .ok ⟨[], rest⟩
    else if isOption arg then
      let (name, value) := nameAndValue arg
      match known.get? name, value, rest with
      | none, _, _ => .error (.unknownOption name)
      | some false, some _, _ => .error (.unwantedValue name)
      | some false, none, rest => (·.withOption name none) <$> read known scattered rest
      | some true, some value, rest => (·.withOption name value) <$> read known scattered rest
      | some true, none, [] => .error (.noValue name)
      | some true, none, value :: rest => (·.withOption name value) <$> read known scattered rest
    else if scattered then (·.withArgument arg) <$> read known scattered rest
    else .ok ⟨[], arg :: rest⟩

end QueryBook.CommandLine
