import QueryBook.Text.Blank
import QueryBook.Text.Search
import QueryBook.Text.Word

set_option autoImplicit false

namespace QueryBook.Section

def afterBreaks : List Char → List (List Char)
  | [] => []
  | c :: cs => if c = '\n' then cs :: afterBreaks cs else afterBreaks cs

def lines (content : List Char) : List (List Char) :=
  content :: afterBreaks content

def afterHeader? (tag : List Char) (content : List Char) : Option (List Char) :=
  (lines content).findSome? (Text.after? (tag ++ [':']))

def terminator : List Char := ['\n', ';', ';']

inductive Found where
  | absent
  | unterminated
  | template (text : List Char)
  deriving DecidableEq, Repr

def find (tag : List Char) (content : List Char) : Found :=
  match afterHeader? tag content with
  | none => .absent
  | some rest =>
    match Text.breakAt? terminator rest with
    | none => .unterminated
    | some (body, _) => .template (Text.trim body)

-- The tag that a line is a header of. Only words are listed.
def listedTag? (line : List Char) : Option String :=
  let tag := line.takeWhile Text.isWord
  match line.dropWhile Text.isWord with
  | ':' :: _ => if tag = [] then none else some (String.ofList tag)
  | _ => none

def listedTags (content : List Char) : List String :=
  (lines content).filterMap listedTag?

def candidates (content : List Char) : List String :=
  (lines content).flatMap fun line =>
    (List.range (line.length + 1)).map fun n => String.ofList (line.take n)

theorem mem_candidates {tag : String} {content : List Char}
    (found : find tag.toList content ≠ .absent) : tag ∈ candidates content := by
  unfold find at found
  split at found
  · simp at found
  next rest header =>
    obtain ⟨line, isLine, start⟩ := List.exists_of_findSome?_eq_some header
    refine List.mem_flatMap.mpr ⟨line, isLine, List.mem_map.mpr ⟨tag.toList.length, ?_, ?_⟩⟩
    · have whole := congrArg List.length (Text.eq_of_after? start)
      simp only [List.length_append] at whole
      exact List.mem_range.mpr (by omega)
    · simp [Text.eq_of_after? start]

end QueryBook.Section
