import QueryBook.Text.Search
import QueryBook.Text.Word

set_option autoImplicit false

namespace QueryBook

inductive Piece where
  | plain (c : Char)
  -- A text between two quote marks. A backslash in its body takes the next character with it.
  | quoted (mark : Char) (body : List Char)
  | dollarQuoted (tag body : List Char)
  | lineComment (body : List Char)
  | blockComment (body : List Char)
  | cast (word : List Char)
  | bind (name : List Char)
  | direct (name : List Char)
  deriving DecidableEq, Repr

namespace Piece

def delimiter (tag : List Char) : List Char :=
  '$' :: (tag ++ ['$'])

def chars : Piece → List Char
  | .plain c => [c]
  | .quoted mark body => mark :: (body ++ [mark])
  | .dollarQuoted tag body => delimiter tag ++ (body ++ delimiter tag)
  | .lineComment body => '-' :: '-' :: body
  | .blockComment body => '/' :: '*' :: (body ++ ['*', '/'])
  | .cast word => ':' :: ':' :: word
  | .bind name => ':' :: name
  | .direct name => '$' :: name

def bindName? : Piece → Option String
  | .bind name => some (String.ofList name)
  | _ => none

def directName? : Piece → Option String
  | .direct name => some (String.ofList name)
  | _ => none

theorem chars_ne_nil (p : Piece) : p.chars ≠ [] := by
  cases p <;> simp [chars, delimiter]

def text (pieces : List Piece) : List Char :=
  pieces.flatMap chars

@[simp] theorem text_nil : text [] = [] := rfl

@[simp] theorem text_cons (p : Piece) (pieces : List Piece) :
    text (p :: pieces) = p.chars ++ text pieces :=
  rfl

end Piece

end QueryBook
