import QueryBook.Analysis
import QueryBook.Text.Blank
import QueryBook.Text.Search
import QueryBook.Text.Word

set_option autoImplicit false

namespace QueryBook

inductive Dialect where
  | standard
  | mysql
  | sqlite
  deriving DecidableEq, Repr

namespace Dialect

def ofName? (name : String) : Option Dialect :=
  match name with
  | "" => some .standard
  | "mysql" => some .mysql
  | "sqlite" => some .sqlite
  | _ => none

def nameEnd? (dialect : Dialect) (mark : Char) : Option Char :=
  match dialect, mark with
  | .mysql, '\x60' | .sqlite, '\x60' => some '\x60'
  | .standard, '"' | .sqlite, '"' => some '"'
  | .sqlite, '[' => some ']'
  | _, _ => none

def isTextMark (dialect : Dialect) (mark : Char) : Bool :=
  mark == '\'' || (mark == '"' && dialect == .mysql)

end Dialect

namespace Projection

inductive Lexeme where
  | word (s : String)
  | name (s : String)
  | text (s : String)
  | number (s : String)
  | sign (c : Char)
  deriving DecidableEq, Repr

def quotedBody? (mark : Char) : List Char → Option (List Char × List Char)
  | [] => none
  | c :: rest =>
    if c = mark then
      match rest with
      | d :: rest =>
        if d = mark then (quotedBody? mark rest).map fun (body, rest) => (mark :: body, rest)
        else some ([], d :: rest)
      | [] => some ([], [])
    else (quotedBody? mark rest).map fun (body, rest) => (c :: body, rest)

theorem length_of_quotedBody? {mark : Char} {cs body rest : List Char}
    (found : quotedBody? mark cs = some (body, rest)) : rest.length < cs.length := by
  fun_induction quotedBody? mark cs generalizing body rest <;>
    simp only [Option.map_eq_some_iff, Prod.exists, Prod.mk.injEq, reduceCtorEq, Option.some.injEq]
      at found <;> grind

def isNumberChar (c : Char) : Bool :=
  c.isDigit || c == '.'

def next? (dialect : Dialect) (c : Char) (cs : List Char) :
    Option (Option Lexeme × { rest : List Char // rest.length ≤ cs.length }) :=
  match c, cs with
  | '-', '-' :: rest =>
    some (none, ⟨rest.dropWhile (· != '\n'),
      Nat.le_succ_of_le (List.dropWhile_suffix (· != '\n')).length_le⟩)
  | '/', '*' :: rest =>
    match found : Text.breakAt? ['*', '/'] rest with
    | some (_, after) =>
      some (none, ⟨after, Nat.le_succ_of_le (Text.length_of_breakAt? found)⟩)
    | none => none
  | c, cs =>
    if Text.isBlank c then some (none, ⟨cs, Nat.le_refl _⟩)
    else if dialect.isTextMark c then
      match found : quotedBody? c cs with
      | some (body, rest) =>
        some (some (.text (String.ofList body)), ⟨rest, Nat.le_of_lt (length_of_quotedBody? found)⟩)
      | none => none
    else
      match dialect.nameEnd? c with
      | some mark =>
        match found : quotedBody? mark cs with
        | some (body, rest) =>
          some
            (some (.name (String.ofList body)), ⟨rest, Nat.le_of_lt (length_of_quotedBody? found)⟩)
        | none => none
      | none =>
        if c.isDigit then
          some (some (.number (String.ofList (c :: cs.takeWhile isNumberChar))),
            ⟨cs.dropWhile isNumberChar, (List.dropWhile_suffix _).length_le⟩)
        else if Text.isWord c then
          some (some (.word (String.ofList (c :: cs.takeWhile Text.isWord))),
            ⟨cs.dropWhile Text.isWord, (List.dropWhile_suffix _).length_le⟩)
        else if c = '\x60' then none
        else some (some (.sign c), ⟨cs, Nat.le_refl _⟩)

def lexemes (dialect : Dialect) : List Char → Option (List Lexeme)
  | [] => some []
  | c :: cs =>
    match next? dialect c cs with
    | none => none
    | some (found, ⟨rest, _shorter⟩) => (lexemes dialect rest).map (found.toList ++ ·)
termination_by cs => cs.length

def isKeyword (keywords : List String) : Lexeme → Bool
  | .word s => keywords.contains s.toUpper
  | _ => false

def listEnds : List String :=
  ["FROM", "WHERE", "GROUP", "HAVING", "ORDER", "LIMIT", "OFFSET", "WINDOW"]

def joiners : List String := ["UNION", "INTERSECT", "EXCEPT"]

def isBalanced (depth : Nat) : List Lexeme → Bool
  | [] => depth == 0
  | .sign '(' :: rest => isBalanced (depth + 1) rest
  | .sign ')' :: rest => depth != 0 && isBalanced (depth - 1) rest
  | _ :: rest => isBalanced depth rest

def columns (depth : Nat) : List Lexeme → List (List Lexeme)
  | [] => [[]]
  | l :: rest =>
    if depth = 0 ∧ isKeyword listEnds l then [[]]
    else if depth = 0 ∧ l = .sign ',' then [] :: columns depth rest
    else
      let depth :=
        match l with
        | .sign '(' => depth + 1
        | .sign ')' => depth - 1
        | _ => depth
      match columns depth rest with
      | column :: more => (l :: column) :: more
      | [] => [[l]]

def isJoined (depth : Nat) : List Lexeme → Bool
  | [] => false
  | .sign '(' :: rest => isJoined (depth + 1) rest
  | .sign ')' :: rest => isJoined (depth - 1) rest
  | l :: rest => (depth == 0 && isKeyword joiners l) || isJoined depth rest

def isStar (column : List Lexeme) : Bool :=
  match column.reverse with
  | [.sign '*'] => true
  | .sign '*' :: .sign '.' :: _ => true
  | _ => false

def Lexeme.source : Lexeme → String
  | .word s | .name s | .text s | .number s => s
  | .sign c => String.singleton c

def label (column : List Lexeme) : String :=
  match column.reverse with
  | [] => ""
  | .name s :: _ => s
  | .word s :: _ => s
  | .text s :: _ => s
  | [.sign ')', .sign '*', .sign '(', _] => "*"
  | _ => String.join (column.map Lexeme.source)

def isUnfinished (lexemes : List Lexeme) : Bool :=
  lexemes.getLast?.any (isKeyword ["FROM", "WHERE"])

def isSelect : List Lexeme → Bool
  | first :: _ => isKeyword ["SELECT"] first
  | [] => false

def columnList (lexemes : List Lexeme) : List (List Lexeme) :=
  let list := lexemes.tail.dropWhile (isKeyword ["DISTINCT", "ALL"])
  (columns 0 (list.filter (· ≠ .sign ';'))).filter (· ≠ [])

def ofLexemes (lexemes : List Lexeme) : Parsed :=
  if !isBalanced 0 lexemes || isUnfinished lexemes then .unparsed "Invalid expression"
  else if !isSelect lexemes || isJoined 0 lexemes then .other
  else
    let columns := columnList lexemes
    .query (columns.any isStar) (columns.map label)

def parse : QueryParser := fun dialect sql =>
  match Dialect.ofName? (dialect.getD "") with
  | none => .broken "ValueError" ("Unknown dialect '" ++ dialect.getD "" ++ "'.")
  | some dialect =>
    match lexemes dialect sql.toList with
    | none => .unparsed "Error tokenizing"
    | some lexemes => ofLexemes lexemes

end Projection

end QueryBook
