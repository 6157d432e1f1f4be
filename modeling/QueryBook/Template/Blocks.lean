import QueryBook.Text.Blank
import QueryBook.Text.Search

set_option autoImplicit false

namespace QueryBook.Template

def isLineBlank (c : Char) : Bool :=
  c == ' ' || c == '\t' || c == '\r' || c == '\x0c' || c == '\x0b'

def afterLineBreak? (cs : List Char) : Option (List Char) :=
  match cs.dropWhile isLineBlank with
  | '\n' :: rest => some rest
  | _ => none

theorem length_of_afterLineBreak? {cs rest : List Char} (found : afterLineBreak? cs = some rest) :
    rest.length < cs.length := by
  unfold afterLineBreak? at found
  split at found
  next after same =>
    have shorter := (List.dropWhile_suffix isLineBlank (l := cs)).length_le
    rw [same, List.length_cons] at shorter
    cases found
    omega
  next => simp at found

def lineBreaks (cs : List Char) : Nat × List Char :=
  match found : afterLineBreak? cs with
  | some rest =>
    have := length_of_afterLineBreak? found
    let (count, after) := lineBreaks rest
    (count + 1, after)
  | none => (0, cs)
termination_by cs.length

def afterGap? (cs : List Char) : Option (List Char) :=
  let (count, rest) := lineBreaks cs
  if 2 ≤ count then some rest else none

theorem length_lineBreaks (cs : List Char) :
    (lineBreaks cs).2.length + (lineBreaks cs).1 ≤ cs.length := by
  fun_induction lineBreaks cs with
  | case1 cs rest found shorter count after eq ih => simp_all; omega
  | case2 => simp

theorem length_of_afterGap? {cs rest : List Char} (found : afterGap? cs = some rest) :
    rest.length < cs.length := by
  have bound := length_lineBreaks cs
  simp only [afterGap?, Option.ite_none_right_eq_some, Option.some.injEq] at found
  obtain ⟨many, rfl⟩ := found
  omega

def cut : List Char → List Char × List (List Char)
  | [] => ([], [])
  | c :: cs =>
    match found : afterGap? (c :: cs) with
    | some rest =>
      have : rest.length < (c :: cs).length := length_of_afterGap? found
      let (block, more) := cut rest
      ([], block :: more)
    | none =>
      let (block, more) := cut cs
      (c :: block, more)
termination_by cs => cs.length
decreasing_by
  · exact this
  · exact Nat.lt_succ_self _

def blocks (body : List Char) : List (List Char) :=
  let (block, more) := cut body
  block :: more

-- What follows a comment at the start of the text. A comment between marks has to be closed.
def afterComment? : List Char → Option (List Char)
  | '-' :: '-' :: rest => some ((rest.dropWhile (· != '\n')).drop 1)
  | '/' :: '*' :: rest => (Text.breakAt? ['*', '/'] rest).map (·.2)
  | _ => none

theorem length_of_afterComment? {cs rest : List Char} (found : afterComment? cs = some rest) :
    rest.length < cs.length := by
  revert found
  fun_cases afterComment? cs with
  | case1 cs =>
    have := (List.dropWhile_suffix (· != '\n') (l := cs)).length_le
    simp only [Option.some.injEq, List.length_cons]
    rintro rfl
    rw [List.length_drop]
    omega
  | case2 cs =>
    simp only [Option.map_eq_some_iff, Prod.exists, exists_eq_right, List.length_cons]
    rintro ⟨body, inner⟩
    rw [Text.eq_of_breakAt? inner]
    simp
    omega
  | case3 => simp

def afterComments : List Char → List Char
  | [] => []
  | c :: cs =>
    if Text.isBlank c then afterComments cs
    else
      match found : afterComment? (c :: cs) with
      | some rest =>
        have : rest.length < (c :: cs).length := length_of_afterComment? found
        afterComments rest
      | none => c :: cs
termination_by cs => cs.length
decreasing_by
  · exact Nat.lt_succ_self _
  · exact this

def withoutSemicolon (cs : List Char) : List Char :=
  if cs.getLast? = some ';' then Text.trimEnd cs.dropLast else cs

def blockText (block : List Char) : List Char :=
  withoutSemicolon (Text.trim (afterComments block))

def statements (body : String) : List String :=
  (((blocks body.toList).map blockText).filter (· ≠ [])).map String.ofList

end QueryBook.Template
