import QueryBook.Console.Wrap

set_option autoImplicit false

namespace QueryBook.Console

structure Table where
  title : String
  header : StyledText
  cells : List StyledText

def pad (columns : Nat) (cs : List Char) : List Char :=
  cs ++ blankSpace (columns - Text.cells cs)

def centred (columns : Nat) (cs : List Char) : List Char :=
  let cs := Text.trimEnd cs
  blankSpace ((columns - Text.cells cs) / 2) ++ cs

-- Characters that end a line of a text. A table keeps room for the longest line of a cell, though
-- only a line feed starts a new line in it.
def isLineEnd (c : Char) : Bool :=
  ['\n', '\x1c', '\x1d', '\x1e', '\u0085', '\u2028', '\u2029'].contains c

def measure (cs : List Char) : Nat :=
  let lines := Text.splitOn '\n' (cs.map fun c => if isLineEnd c then '\n' else c)
  (lines.map Text.cells).foldl max 0

def crop (columns : Nat) : List (List Char) → List (List Char)
  | [] => []
  | segment :: rest =>
    let taken := Text.cells segment
    if taken < columns then segment :: crop (columns - taken) rest
    else if taken = columns then [segment]
    else [Text.cut columns (Text.clusters segment)]

def adjust (columns : Nat) (segments : List (List Char)) : List (List Char) :=
  let taken := segments.foldl (fun taken segment => taken + Text.cells segment) 0
  if taken ≤ columns then segments ++ [blankSpace (columns - taken)]
  else crop columns segments

namespace Table

-- The box has four columns of its own.
def columns (t : Table) (screen : Nat) : Nat :=
  min (screen - 4) (((t.header :: t.cells).map fun cell => measure cell.chars).foldl max 0)

def rule (left right line : Char) (columns : Nat) : List Char :=
  left :: List.replicate (columns + 2) line ++ [right]

-- A line of a cell. Padding alone does not always fill the columns: a segment may start or end with
-- a joiner, and what is cut may be narrower than it was.
def rowLine (edge : Char) (columns : Nat) (line : StyledText) : List Char :=
  let padded := line.withChars (pad columns line.chars)
  edge :: ' ' :: (adjust columns (adjust columns padded.segments)).flatten ++ [' ', edge]

def row (edge : Char) (columns : Nat) (cell : StyledText) : List (List Char) :=
  (wrap columns .dropped cell).map (rowLine edge columns)

-- The title is centred, and goes on to a new line when the box is narrower.
def lines (t : Table) (screen : Nat) : List (List Char) :=
  let columns := t.columns screen
  let box := columns + 4
  (wrap box .folded (.ofChars t.title.toList)).map (fun line => centred box line.chars) ++
    rule '┏' '┓' '━' columns :: row '┃' columns t.header ++
    rule '┡' '┩' '━' columns :: t.cells.flatMap (row '│' columns) ++
    [rule '└' '┘' '─' columns]

end Table

end QueryBook.Console
