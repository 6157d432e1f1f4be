import QueryBook.Console.StyledText
import QueryBook.Text.Blank
import QueryBook.Text.Cluster
import QueryBook.Text.Search

set_option autoImplicit false

namespace QueryBook.Console

inductive Overflow where
  | folded
  | dropped
  deriving DecidableEq, Repr

def expandFrom (t : StyledText) (start column : Nat) : List (List Char) → StyledText
  | [] => .ofChars []
  | [part] => t.slice start part.length
  | part :: rest =>
    let reached := column + Text.cells (part ++ [' '])
    let gap := (8 - reached % 8) % 8
    let filled := ((t.slice start (part.length + 1)).withChars (part ++ [' '])).extend gap
    filled ++ expandFrom t (start + part.length + 1) (reached + gap) rest

def expandTabs (t : StyledText) : StyledText :=
  match Text.splitOn '\t' t.chars with
  | [_] => t
  | parts => expandFrom t 0 0 parts

def words (cs : List Char) : List (List Char) :=
  match found : cs.dropWhile Text.isBlank with
  | [] => []
  | c :: rest =>
    let after := rest.dropWhile (!Text.isBlank ·)
    let word := cs.takeWhile Text.isBlank ++ c :: rest.takeWhile (!Text.isBlank ·)
    have : (after.dropWhile Text.isBlank).length < cs.length := by
      have whole : (cs.dropWhile Text.isBlank).length ≤ cs.length :=
        (List.dropWhile_suffix _).length_le
      have later : after.length ≤ rest.length := (List.dropWhile_suffix _).length_le
      have last : (after.dropWhile Text.isBlank).length ≤ after.length :=
        (List.dropWhile_suffix _).length_le
      simp only [found, List.length_cons] at whole
      omega
    (word ++ after.takeWhile Text.isBlank) :: words (after.dropWhile Text.isBlank)
termination_by cs.length

-- Puts words into lines, the first of which starts with `line` and has `used` columns so far.
def fill (columns : Nat) (overflow : Overflow) (line : List Char) (used : Nat) :
    List (List Char) → List (List Char)
  | [] => [line]
  | word :: rest =>
    let needed := Text.cells (Text.trimEnd word)
    if used + needed ≤ columns then
      fill columns overflow (line ++ word) (used + Text.cells word) rest
    else
      let above := if line = [] then [] else [line]
      if columns < needed ∧ overflow = .folded then
        let pieces := Text.chop columns columns (Text.clusters word)
        let last := pieces.getLastD []
        above ++ pieces.dropLast ++ fill columns overflow last (Text.cells last) rest
      else above ++ fill columns overflow word (Text.cells word) rest

def breakLine (columns : Nat) (overflow : Overflow) (cs : List Char) : List (List Char) :=
  match words cs with
  | [] => [cs]
  | ws => fill columns overflow [] 0 ws

-- Blanks at the end of a line that is too long are left out, as far as it is too long.
def trimExcess (columns : Nat) (cs : List Char) : List Char :=
  let blanks := cs.length - (Text.trimEnd cs).length
  cs.take (cs.length - min blanks (cs.length - columns))

def fit (columns : Nat) (overflow : Overflow) (cs : List Char) : List Char :=
  if Text.cells cs ≤ columns then cs
  else
    match overflow with
    | .folded => Text.cut columns (Text.clusters cs)
    | .dropped => Text.cut (columns - 1) (Text.clusters cs) ++ ['…']

def fitLine (columns : Nat) (overflow : Overflow) (line : StyledText) : StyledText :=
  let trimmed := line.withChars (trimExcess columns line.chars)
  trimmed.withChars (fit columns overflow trimmed.chars)

def wrapLine (columns : Nat) (overflow : Overflow) (line : StyledText) : List StyledText :=
  let line := expandTabs line
  (line.divide 0 ((breakLine columns overflow line.chars).map List.length)).map
    (fitLine columns overflow)

def wrap (columns : Nat) (overflow : Overflow) (t : StyledText) : List StyledText :=
  (t.divide 1 ((Text.splitOn '\n' t.chars).map List.length)).flatMap (wrapLine columns overflow)

end QueryBook.Console
