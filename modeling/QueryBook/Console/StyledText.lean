set_option autoImplicit false

namespace QueryBook.Console

structure Stretch where
  start : Nat
  stop : Nat
  deriving DecidableEq, Repr

structure StyledText where
  chars : List Char
  stretches : List Stretch
  deriving DecidableEq, Repr

def blankSpace (n : Nat) : List Char :=
  List.replicate n ' '

namespace StyledText

def ofChars (cs : List Char) : StyledText := ⟨cs, []⟩

def append (a b : StyledText) : StyledText where
  chars := a.chars ++ b.chars
  stretches :=
    a.stretches ++ b.stretches.map fun s => ⟨a.chars.length + s.start, a.chars.length + s.stop⟩

instance : Append StyledText := ⟨append⟩

def styledFrom (t : StyledText) (start : Nat) : StyledText :=
  { t with stretches := t.stretches ++ [⟨start, t.chars.length⟩] }

def withChars (t : StyledText) (cs : List Char) : StyledText where
  chars := cs
  stretches :=
    if cs.length < t.chars.length then
      (t.stretches.filter (·.start < cs.length)).map fun s =>
        { s with stop := min s.stop cs.length }
    else t.stretches

-- Spaces at the end belong to the stretches that go up to them.
def extend (t : StyledText) (n : Nat) : StyledText where
  chars := t.chars ++ blankSpace n
  stretches :=
    t.stretches.map fun s => if t.chars.length ≤ s.stop then { s with stop := s.stop + n } else s

def slice (t : StyledText) (start n : Nat) : StyledText where
  chars := (t.chars.drop start).take n
  stretches :=
    (t.stretches.map fun s => ⟨s.start - start, min (s.stop - start) n⟩).filter fun s =>
      s.start < s.stop

def slices (t : StyledText) (gap start : Nat) : List Nat → List StyledText
  | [] => []
  | n :: rest => t.slice start n :: t.slices gap (start + n + gap) rest

-- The parts of these lengths, so many characters apart. A text that is one part stays as it is.
def divide (t : StyledText) (gap : Nat) : List Nat → List StyledText
  | [_] => [t]
  | lengths => t.slices gap 0 lengths

def isEdge (t : StyledText) (place : Nat) : Bool :=
  t.stretches.any fun s => s.start == place || s.stop == place

def segmentsFrom (t : StyledText) (place : Nat) : List Char → List (List Char)
  | [] => [[]]
  | c :: rest =>
    let later := t.segmentsFrom (place + 1) rest
    if t.isEdge (place + 1) then [c] :: later
    else (c :: later.headD []) :: later.tail

def segments (t : StyledText) : List (List Char) :=
  t.segmentsFrom 0 t.chars

end StyledText

end QueryBook.Console
