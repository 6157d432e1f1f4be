set_option autoImplicit false

namespace QueryBook.Text

def after? : List Char → List Char → Option (List Char)
  | [], cs => some cs
  | _ :: _, [] => none
  | s :: start, c :: cs => if s = c then after? start cs else none

theorem eq_of_after? {start cs rest : List Char} (found : after? start cs = some rest) :
    cs = start ++ rest := by
  fun_induction after? start cs with
  | case1 => simp_all
  | case2 => simp at found
  | case3 s start cs ih => simp [ih found]
  | case4 => simp at found

@[simp] theorem after?_append (start rest : List Char) :
    after? start (start ++ rest) = some rest := by
  induction start with
  | nil => rfl
  | cons s start ih => simp [after?, ih]

def breakAt? (mark : List Char) : List Char → Option (List Char × List Char)
  | [] => (after? mark []).map ([], ·)
  | c :: cs =>
    match after? mark (c :: cs) with
    | some rest => some ([], rest)
    | none => (breakAt? mark cs).map fun (before, rest) => (c :: before, rest)

theorem eq_of_breakAt? {mark cs before rest : List Char}
    (found : breakAt? mark cs = some (before, rest)) : cs = before ++ (mark ++ rest) := by
  fun_induction breakAt? mark cs generalizing before rest with
  | case1 =>
    simp only [Option.map_eq_some_iff, Prod.mk.injEq] at found
    obtain ⟨_, here, rfl, rfl⟩ := found
    simpa using eq_of_after? here
  | case2 c cs after here =>
    simp only [Option.some.injEq, Prod.mk.injEq] at found
    obtain ⟨rfl, rfl⟩ := found
    simpa using eq_of_after? here
  | case3 c cs here ih =>
    simp only [Option.map_eq_some_iff, Prod.exists, Prod.mk.injEq] at found
    obtain ⟨inner, _, later, rfl, rfl⟩ := found
    simp [ih later]

theorem length_of_breakAt? {mark cs before rest : List Char}
    (found : breakAt? mark cs = some (before, rest)) : rest.length ≤ cs.length := by
  have whole := congrArg List.length (eq_of_breakAt? found)
  simp only [List.length_append] at whole
  omega

def splitOn (mark : Char) : List Char → List (List Char)
  | [] => [[]]
  | c :: cs =>
    if c = mark then [] :: splitOn mark cs
    else
      match splitOn mark cs with
      | part :: parts => (c :: part) :: parts
      | [] => [[c]]

theorem exists_splitOn (mark : Char) (cs : List Char) :
    ∃ parts, splitOn mark cs = cs.takeWhile (· ≠ mark) :: parts := by
  induction cs with
  | nil => exact ⟨[], rfl⟩
  | cons c cs ih =>
    obtain ⟨parts, eq⟩ := ih
    by_cases isMark : c = mark
    · exact ⟨splitOn mark cs, by simp [splitOn, isMark]⟩
    · exact ⟨parts, by simp [splitOn, isMark, eq]⟩

end QueryBook.Text
