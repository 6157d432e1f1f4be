import QueryBook.Console.Emoji
import QueryBook.Console.StyledText
import QueryBook.Error.Basic
import QueryBook.Text.Word

set_option autoImplicit false

namespace QueryBook.Console

inductive Part where
  | text (cs : List Char)
  | tag (name : List Char)
  deriving DecidableEq, Repr

def isTagStart (c : Char) : Bool :=
  c.isLower || c == '#' || c == '/' || c == '@'

def closing? : List Char → Option (List Char × List Char)
  | [] => none
  | c :: rest =>
    if c = ']' then some ([], rest)
    else if c = '[' then none
    else (closing? rest).map fun (inside, after) => (c :: inside, after)

def inside? : List Char → Option (List Char × List Char)
  | [] => none
  | c :: rest =>
    if isTagStart c then (closing? rest).map fun (inside, after) => (c :: inside, after)
    else none

theorem eq_of_closing? {cs inside after : List Char}
    (found : closing? cs = some (inside, after)) : cs = inside ++ ']' :: after := by
  fun_induction closing? cs generalizing inside after with
  | case1 => simp at found
  | case2 => simp_all
  | case3 => simp at found
  | case4 c rest _ _ ih =>
    obtain ⟨⟨_, _⟩, later, eq⟩ := Option.map_eq_some_iff.mp found
    simp only [Prod.mk.injEq] at eq
    obtain ⟨rfl, rfl⟩ := eq
    simp [ih later]

theorem eq_of_inside? {cs inside after : List Char}
    (found : inside? cs = some (inside, after)) : cs = inside ++ ']' :: after := by
  fun_cases inside? cs with
  | case1 => simp [inside?] at found
  | case2 c rest starts =>
    simp only [inside?, starts, if_true] at found
    obtain ⟨⟨_, _⟩, later, eq⟩ := Option.map_eq_some_iff.mp found
    simp only [Prod.mk.injEq] at eq
    obtain ⟨rfl, rfl⟩ := eq
    simp [eq_of_closing? later]
  | case3 c rest starts => simp [inside?, starts] at found

theorem length_of_inside? {cs inside after : List Char}
    (found : inside? cs = some (inside, after)) : after.length < cs.length := by
  simp only [eq_of_inside? found, List.length_append, List.length_cons]
  omega

def backslashes (n : Nat) : List Char :=
  List.replicate n '\\'

-- The parts of a text after `before`, which stands in the opposite order, and `n` backslashes.
-- Backslashes before a tag stand for half as many; an odd one makes text of the tag.
def partsAfter (before : List Char) (n : Nat) : List Char → List Part
  | [] => [.text (before.reverse ++ backslashes n)]
  | c :: rest =>
    if c = '\\' then partsAfter before (n + 1) rest
    else if c = '[' then
      match found : inside? rest with
      | some (inside, after) =>
        have : after.length < rest.length := length_of_inside? found
        let tag := if n % 2 = 1 then .text ('[' :: inside ++ [']']) else .tag inside
        .text before.reverse :: .text (backslashes (n / 2)) :: tag :: partsAfter [] 0 after
      | none => partsAfter ('[' :: backslashes (n - 1) ++ before) 0 rest
    else partsAfter (c :: backslashes n ++ before) 0 rest
termination_by cs => cs.length

structure Style where
  name : List Char
  parameters : List Char
  start : Nat

namespace Style

def normalName (cs : List Char) : List Char :=
  (Text.trim cs).map Char.toLower

def ofTag (inside : List Char) (start : Nat) : Style where
  name := normalName (inside.takeWhile (· ≠ '='))
  parameters := (inside.dropWhile (· ≠ '=')).tail
  start

def isClosable (style : Style) : Bool :=
  style.name.head? != some '@' ||
    (Text.trim style.parameters).all fun c => Text.isWord c || c == '.'

end Style

def closeStyle (name : List Char) (styles : List Style) : Except Error (Style × List Style) :=
  let isMeant (style : Style) : Bool := name == [] || style.name == name
  match styles.find? isMeant with
  | none =>
    .error (if name = [] then .nothingToClose else .notOpen (String.ofList name))
  | some style =>
    if style.isClosable then .ok (style, styles.eraseP isMeant)
    else .error (.uncallable (String.ofList style.parameters))

def isControl (c : Char) : Bool :=
  ['\x07', '\x08', '\x0b', '\x0c', '\r'].contains c

def showParts (shown : StyledText) (styles : List Style) : List Part → Except Error StyledText
  | [] => .ok (styles.foldl (fun shown style => shown.styledFrom style.start) shown)
  | .text cs :: rest =>
    showParts (shown ++ .ofChars ((Emoji.replace cs).filter (!isControl ·))) styles rest
  | .tag inside :: rest =>
    match inside.takeWhile (· ≠ '=') with
    | '/' :: name => do
      let (style, styles) ← closeStyle (Style.normalName name) styles
      showParts (shown.styledFrom style.start) styles rest
    | _ => showParts shown (.ofTag inside shown.chars.length :: styles) rest

def render (markup : String) : Except Error StyledText :=
  showParts (.ofChars []) [] (partsAfter [] 0 markup.toList)

def escapeAfter (n : Nat) : List Char → List Char
  | [] => backslashes (if n = 1 then 2 else n)
  | c :: rest =>
    if c = '\\' then escapeAfter (n + 1) rest
    else if c = '[' then
      match found : inside? rest with
      | some (inside, after) =>
        have : after.length < rest.length := length_of_inside? found
        backslashes (2 * n + 1) ++ '[' :: inside ++ ']' :: escapeAfter 0 after
      | none => backslashes n ++ '[' :: escapeAfter 0 rest
    else backslashes n ++ c :: escapeAfter 0 rest
termination_by cs => cs.length

def escape (text : String) : String :=
  String.ofList (escapeAfter 0 text.toList)

end QueryBook.Console
