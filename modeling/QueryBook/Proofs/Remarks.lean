import QueryBook.Proofs.Joining
import QueryBook.StatementKind
import QueryBook.Template.Include

set_option autoImplicit false

namespace QueryBook

namespace Template

inductive Remark where
  | blank (c : Char)
  | line (body : List Char)
  | block (body : List Char)
  deriving DecidableEq, Repr

namespace Remark

def chars : Remark → List Char
  | .blank c => [c]
  | .line body => '-' :: '-' :: (body ++ ['\n'])
  | .block body => '/' :: '*' :: (body ++ ['*', '/'])

def WellFormed : Remark → Prop
  | .blank c => Text.isBlank c
  | .line body => '\n' ∉ body
  | .block body => Text.ClosedBy ['*', '/'] body

instance : DecidablePred WellFormed
  | .blank c => inferInstanceAs (Decidable (Text.isBlank c = true))
  | .line body => inferInstanceAs (Decidable ('\n' ∉ body))
  | .block body => inferInstanceAs (Decidable (Text.ClosedBy ['*', '/'] body))

def text (remarks : List Remark) : List Char :=
  remarks.flatMap chars

@[simp] theorem text_nil : text [] = [] := rfl

@[simp] theorem text_cons (r : Remark) (remarks : List Remark) :
    text (r :: remarks) = r.chars ++ text remarks :=
  rfl

end Remark

variable {c : Char} {cs s body blanks : List Char} {remarks : List Remark}

section Comments

theorem afterComment?_line (line : '\n' ∉ body) (cs : List Char) :
    afterComment? ((Remark.line body).chars ++ cs) = some cs := by
  have inside : ∀ c ∈ body, (c != '\n') = true := fun c member => by
    simpa using ne_of_mem_of_not_mem member line
  have stop : ∀ c ∈ ('\n' :: cs).head?, (c != '\n') = false := by simp
  simp [Remark.chars, afterComment?, Text.dropWhile_append_of_stop inside stop]

theorem afterComment?_block (closed : Text.ClosedBy ['*', '/'] body) (cs : List Char) :
    afterComment? ((Remark.block body).chars ++ cs) = some cs := by
  have read : Text.breakAt? ['*', '/'] (body ++ '*' :: '/' :: cs) = some (body, cs) :=
    Text.breakAt?_of_closedBy closed cs
  simp [Remark.chars, afterComment?, read]

theorem afterComments_remark {r : Remark} (wellFormed : r.WellFormed) (cs : List Char) :
    afterComments (r.chars ++ cs) = afterComments cs := by
  cases r with
  | blank c => exact afterComments_blank wellFormed cs
  | line body => exact afterComments_comment (afterComment?_line wellFormed cs)
  | block body => exact afterComments_comment (afterComment?_block wellFormed cs)

theorem afterComments_remarks (wellFormed : ∀ r ∈ remarks, r.WellFormed) (cs : List Char) :
    afterComments (Remark.text remarks ++ cs) = afterComments cs := by
  induction remarks with
  | nil => rfl
  | cons r remarks ih =>
    obtain ⟨here, later⟩ := List.forall_mem_cons.mp wellFormed
    rw [Remark.text_cons, List.append_assoc, afterComments_remark here, ih later]

theorem blockText_remark {r : Remark} (wellFormed : r.WellFormed) (cs : List Char) :
    blockText (r.chars ++ cs) = blockText cs := by
  rw [blockText, afterComments_remark wellFormed, blockText]

theorem blockText_lastLine (line : '\n' ∉ body) : blockText ('-' :: '-' :: body) = [] := by
  have inside : ∀ c ∈ body, (c != '\n') = true := fun c member => by
    simpa using ne_of_mem_of_not_mem member line
  have found : afterComment? ('-' :: '-' :: body) = some [] := by
    simp [afterComment?, List.dropWhile_eq_nil_iff.mpr inside]
  rw [blockText, afterComments_comment found, ← blockText, blockText_nil]

end Comments

section Blocks

theorem lineBreaks_append_le (s t : List Char) :
    (lineBreaks (s ++ t)).1 ≤ s.count '\n' + (lineBreaks t).1 := by
  induction s with
  | nil => simp
  | cons c s ih =>
    rcases cases_gapChar c with rfl | blank | solid
    · simp only [List.cons_append, lineBreaks_break, List.count_cons_self]
      omega
    · rw [List.cons_append, lineBreaks_blank blank]
      have fewer := List.count_le_count_cons (a := '\n') (b := c) (l := s)
      split
      · exact Nat.zero_le _
      · omega
    · simp [lineBreaks_solid solid]

theorem blocks_append_of_few {t : List Char} (few : s.count '\n' + (lineBreaks t).1 < 2) :
    blocks (s ++ t) = glue [s] (blocks t) := by
  induction s with
  | nil =>
    obtain ⟨block, more, split⟩ := List.exists_cons_of_ne_nil (blocks_ne_nil t)
    simp [split, glue]
  | cons c s ih =>
    have fewer := List.count_le_count_cons (a := '\n') (b := c) (l := s)
    have none : afterGap? (c :: (s ++ t)) = none := by
      have bound := lineBreaks_append_le (c :: s) t
      rw [afterGap?_eq_none_iff]
      exact Nat.lt_of_le_of_lt bound few
    obtain ⟨block, more, split, grown⟩ := exists_blocks_cons none
    obtain ⟨first, rest, parts⟩ := List.exists_cons_of_ne_nil (blocks_ne_nil t)
    rw [ih (by omega), parts, glue] at split
    obtain ⟨rfl, rfl⟩ := List.cons.inj split
    rw [List.cons_append, grown, parts, glue, List.cons_append]

theorem HasBlankLine.of_cons (broken : HasBlankLine (c :: cs)) (other : c ≠ '\n') :
    HasBlankLine cs :=
  broken.cons_cases.resolve_right fun ⟨isBreak, _⟩ => other isBreak

theorem HasBlankLine.of_append {t : List Char} (broken : HasBlankLine (s ++ t)) (line : '\n' ∉ t) :
    HasBlankLine s := by
  obtain ⟨before, blanks, after, same, inside⟩ := broken
  have whole : s ++ t = (before ++ '\n' :: blanks) ++ '\n' :: after := by simp [same]
  rcases List.append_eq_append_iff.mp whole with ⟨back, -, rest⟩ | ⟨back, rfl, rest⟩
  · exact absurd (rest ▸ by simp) line
  · cases back with
    | nil =>
      rw [List.nil_append] at rest
      exact absurd (rest ▸ List.mem_cons_self ..) line
    | cons d back =>
      obtain ⟨rfl, -⟩ := List.cons.inj rest
      exact ⟨before, blanks, back, by simp, inside⟩

variable {r : Remark}

theorem blockTexts_remark_of_glue (wellFormed : r.WellFormed)
    (whole : blocks (r.chars ++ cs) = glue [r.chars] (blocks cs)) :
    blockTexts (blocks (r.chars ++ cs)) = blockTexts (blocks cs) := by
  obtain ⟨first, more, split⟩ := List.exists_cons_of_ne_nil (blocks_ne_nil cs)
  rw [whole, split, glue]
  simp only [blockTexts, List.map_cons, blockText_remark wellFormed]

theorem blockTexts_blank (blank : Text.isBlank c = true) (cs : List Char) :
    blockTexts (blocks (c :: cs)) = blockTexts (blocks cs) := by
  have wellFormed : (Remark.blank c).WellFormed := blank
  rcases cases_gapChar c with rfl | inLine | solid
  · rw [← blockTexts_lineBreaks, lineBreaks_break, blockTexts_lineBreaks]
  · by_cases last : (lineBreaks cs).1 = 0
    · have different : c ≠ '\n' := by
        rintro rfl
        cases inLine
      refine blockTexts_remark_of_glue wellFormed (blocks_append_of_few ?_)
      rw [Remark.chars, List.count_singleton, if_neg (by simpa using different), last]
      decide
    · rw [← blockTexts_lineBreaks, lineBreaks_blank inLine, if_neg last, blockTexts_lineBreaks]
  · have ends : EndsSolid [c] := by simpa [EndsSolid] using solid
    have short := List.count_le_length (a := '\n') (l := [c])
    have alone : blocks [c] = [[c]] :=
      blocks_of_unbroken (not_hasBlankLine_of_few (Nat.lt_succ_of_le short))
    exact blockTexts_remark_of_glue wellFormed (alone ▸ blocks_append ends cs)

theorem blockTexts_blank_append (blank : ∀ c ∈ blanks, Text.isBlank c = true) (cs : List Char) :
    blockTexts (blocks (blanks ++ cs)) = blockTexts (blocks cs) := by
  induction blanks with
  | nil => rfl
  | cons c blanks ih =>
    obtain ⟨here, later⟩ := List.forall_mem_cons.mp blank
    rw [List.cons_append, blockTexts_blank here, ih later]

-- The line break of the comment may belong to a gap; then the comment is a block of its own.
theorem blockTexts_line (line : '\n' ∉ body) (cs : List Char) :
    blockTexts (blocks ((Remark.line body).chars ++ cs)) = blockTexts (blocks cs) := by
  have comment : '\n' ∉ '-' :: '-' :: body := by simpa using line
  by_cases last : (lineBreaks cs).1 = 0
  · refine blockTexts_remark_of_glue line (blocks_append_of_few ?_)
    have one : (Remark.line body).chars = ('-' :: '-' :: body) ++ ['\n'] := rfl
    rw [one, List.count_append, List.count_eq_zero_of_not_mem comment, last]
    decide
  · have found : ∃ rest, afterLineBreak? cs = some rest := by
      rw [lineBreaks_eq] at last
      cases found : afterLineBreak? cs with
      | none => simp [found] at last
      | some rest => exact ⟨rest, rfl⟩
    obtain ⟨rest, found⟩ := found
    obtain ⟨blanks, rfl, inLine⟩ := exists_of_afterLineBreak? found
    have gapChars : ∀ c ∈ '\n' :: (blanks ++ ['\n']), isGapChar c = true := by
      simp only [List.forall_mem_cons, List.forall_mem_append]
      exact ⟨rfl, fun c member => isGapChar_of_isLineBlank (inLine c member), rfl, by simp⟩
    have isGap : IsGap ('\n' :: (blanks ++ ['\n'])) :=
      ⟨gapChars, by simp [List.getLast?_cons], by simp⟩
    have whole : (Remark.line body).chars ++ (blanks ++ '\n' :: rest) =
        ('-' :: '-' :: body) ++ (('\n' :: (blanks ++ ['\n'])) ++ rest) := by
      simp [Remark.chars]
    have blank : ∀ c ∈ blanks ++ ['\n'], Text.isBlank c = true := fun c member =>
      isBlank_of_isGapChar (gapChars c (List.mem_cons_of_mem _ member))
    have alone : blockTexts (blocks ('-' :: '-' :: body)) = [] := by
      have unbroken : ¬ HasBlankLine ('-' :: '-' :: body) :=
        not_hasBlankLine_of_few (by simp [List.count_eq_zero_of_not_mem comment])
      rw [blocks_of_unbroken unbroken]
      simp [blockTexts, blockText_lastLine line]
    rw [whole, blockTexts_parted isGap, alone, List.nil_append, List.append_cons blanks,
      blockTexts_blank_append blank]

theorem blockTexts_block (closed : Text.ClosedBy ['*', '/'] body) (unbroken : ¬ HasBlankLine body)
    (cs : List Char) :
    blockTexts (blocks ((Remark.block body).chars ++ cs)) = blockTexts (blocks cs) := by
  have whole : ¬ HasBlankLine (Remark.block body).chars := fun broken => by
    have inner := (broken.of_cons (by decide)).of_cons (by decide)
    exact unbroken (inner.of_append (by decide))
  have ends : EndsSolid (Remark.block body).chars := by
    have last : (Remark.block body).chars.getLast? = some '/' := by
      simp [Remark.chars, List.getLast?_cons]
    rintro c found
    obtain rfl : '/' = c := Option.some.inj (last.symm.trans found)
    rfl
  exact blockTexts_remark_of_glue closed (blocks_of_unbroken whole ▸ blocks_append ends cs)

theorem blockTexts_remarks (wellFormed : ∀ r ∈ remarks, r.WellFormed)
    (unbroken : ∀ body, .block body ∈ remarks → ¬ HasBlankLine body) (cs : List Char) :
    blockTexts (blocks (Remark.text remarks ++ cs)) = blockTexts (blocks cs) := by
  induction remarks with
  | nil => rfl
  | cons r remarks ih =>
    obtain ⟨here, later⟩ := List.forall_mem_cons.mp wellFormed
    have rest := ih later fun body member => unbroken body (List.mem_cons_of_mem r member)
    rw [Remark.text_cons, List.append_assoc, ← rest]
    cases r with
    | blank c => exact blockTexts_blank here _
    | line body => exact blockTexts_line here _
    | block body => exact blockTexts_block here (unbroken body (List.mem_cons_self ..)) _

end Blocks

/-- What stands in front of a statement does not decide what kind of statement it is, or which tag
it includes. -/
theorem statements_remarked (wellFormed : ∀ r ∈ remarks, r.WellFormed)
    (unbroken : ∀ body, .block body ∈ remarks → ¬ HasBlankLine body) :
    let front := String.ofList (Remark.text remarks)
    (∀ b : String, statements (front ++ b) = statements b) ∧
    ∀ s : String, IsStatement s.toList →
      (statements (front ++ s)).map StatementKind.classify = [StatementKind.classify s] ∧
      (statements (front ++ s)).map includedTag = [includedTag s] := by
  intro front
  have same (b : String) : statements (front ++ b) = statements b := by
    have whole : (front ++ b).toList = Remark.text remarks ++ b.toList := by simp [front]
    rw [statements_eq, whole, blockTexts_remarks wellFormed unbroken, ← statements_eq]
  refine ⟨same, fun s isStatement => ?_⟩
  rw [same, isStatement.statements]
  exact ⟨rfl, rfl⟩

theorem statements_remarked_select :
    let remarks : List Remark :=
      [.line " include /* ;".toList, .blank '\n', .blank ' ', .block "\n;--".toList]
    let front := String.ofList (Remark.text remarks)
    let s := "SELECT1 x FROM t"
    (∀ r ∈ remarks, r.WellFormed) ∧
    (∀ body, .block body ∈ remarks → ¬ HasBlankLine body) ∧
    IsStatement s.toList ∧
    (∀ b : String, statements (front ++ b) = statements b) ∧
    (statements (front ++ s)).map StatementKind.classify = [.ok (.exactlyOne, "SELECT x FROM t")] ∧
    (statements (front ++ s)).map includedTag = [.ok none] := by
  have kind : StatementKind.classify "SELECT1 x FROM t" = .ok (.exactlyOne, "SELECT x FROM t") := by
    decide
  have tag : includedTag "SELECT1 x FROM t" = .ok none := by decide
  intro remarks front s
  have wellFormed : ∀ r ∈ remarks, r.WellFormed := by decide
  have unbroken : ∀ body, .block body ∈ remarks → ¬ HasBlankLine body := by
    intro body member
    have same : body = "\n;--".toList := by simpa [remarks] using member
    exact not_hasBlankLine_of_few (same ▸ by decide)
  have isStatement : IsStatement s.toList :=
    ⟨by decide, by decide, by decide, by decide, not_hasBlankLine_of_few (by decide)⟩
  obtain ⟨same, kinds⟩ := statements_remarked wellFormed unbroken
  obtain ⟨classified, included⟩ := kinds s isStatement
  exact ⟨wellFormed, unbroken, isStatement, same, kind ▸ classified, tag ▸ included⟩

end Template

end QueryBook
