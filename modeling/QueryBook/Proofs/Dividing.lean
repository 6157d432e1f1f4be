import QueryBook.Proofs.Remarks

set_option autoImplicit false

namespace QueryBook

namespace Template

variable {c : Char} {cs rest block s t : List Char} {bs : List (List Char)}

section Gaps

theorem startsWithBreak_of_afterLineBreak? (found : afterLineBreak? cs = some rest) :
    StartsWithBreak cs := by
  obtain ⟨blanks, same, inLine⟩ := exists_of_afterLineBreak? found
  exact ⟨blanks, rest, same, inLine⟩

theorem startsWithBreak_iff : StartsWithBreak cs ↔ 0 < (lineBreaks cs).1 := by
  constructor
  · rintro ⟨blanks, rest, rfl, inLine⟩
    have gapChars : ∀ c ∈ blanks, isGapChar c = true := fun c member =>
      isGapChar_of_isLineBlank (inLine c member)
    rw [lineBreaks_append_of_gap gapChars]
    simp only
    omega
  · rw [lineBreaks_eq]
    cases found : afterLineBreak? cs with
    | none => simp
    | some rest => exact fun _ => startsWithBreak_of_afterLineBreak? found

-- The blocks of a text, cut out at its gaps. A gap goes back to a character that is no part of one,
-- and on to the last line break.
inductive IsCut : List Char → List (List Char) → Prop where
  | last {block : List Char} (unbroken : ¬ HasBlankLine block) : IsCut block [block]
  | gap {block gap rest : List Char} {later : List (List Char)} (unbroken : ¬ HasBlankLine block)
      (solid : EndsSolid block) (isGap : IsGap gap) (whole : ¬ StartsWithBreak rest)
      (isCut : IsCut rest later) : IsCut (block ++ (gap ++ rest)) (block :: later)

theorem IsCut.eq_blocks (isCut : IsCut cs bs) : bs = blocks cs := by
  induction isCut with
  | last unbroken => rw [blocks_of_unbroken unbroken]
  | @gap block gap rest later unbroken solid isGap whole isCut ih =>
    have found := isGap.afterGap?_append rest
    have last : lineBreaks rest = (0, rest) := by
      rw [startsWithBreak_iff, Nat.not_lt, Nat.le_zero, lineBreaks_eq] at whole
      rw [lineBreaks_eq]
      cases none : afterLineBreak? rest <;> simp [none] at whole ⊢
    rw [last] at found
    rw [blocks_append solid, blocks_of_gap found, blocks_of_unbroken unbroken, ih, glue,
      List.append_nil]

theorem isGap_of_afterGap? (found : afterGap? cs = some rest) :
    ∃ gap, cs = gap ++ rest ∧ IsGap gap ∧ ¬ StartsWithBreak rest := by
  obtain ⟨many, rfl⟩ := afterGap?_eq_some_iff.mp found
  obtain ⟨gap, whole, inside, counted, ends, stops⟩ := exists_lineBreaks cs
  have nonempty : gap ≠ [] := by
    rintro rfl
    simp only [List.count_nil] at counted
    omega
  refine ⟨gap, whole, ⟨inside, ends nonempty, counted ▸ many⟩, ?_⟩
  rw [startsWithBreak_iff, stops]
  decide

theorem StartsWithBreak.append (starts : StartsWithBreak s) (t : List Char) :
    StartsWithBreak (s ++ t) := by
  obtain ⟨blanks, rest, rfl, inLine⟩ := starts
  exact ⟨blanks, rest ++ t, by simp, inLine⟩

-- No gap begins at the first character, so it belongs to the first block.
theorem IsCut.cons (isCut : IsCut cs (block :: bs)) (none : afterGap? (c :: cs) = none) :
    IsCut (c :: cs) ((c :: block) :: bs) := by
  have lone (broken : c = '\n') : ¬ StartsWithBreak cs := by
    subst broken
    rw [afterGap?_eq_none_iff, lineBreaks_break] at none
    rw [startsWithBreak_iff]
    omega
  cases isCut with
  | last unbroken =>
    refine .last fun broken => ?_
    exact broken.cons_cases.elim unbroken fun ⟨isBreak, starts⟩ => lone isBreak starts
  | @gap _ gap rest _ unbroken solid isGap whole isCut =>
    have unbroken' : ¬ HasBlankLine (c :: block) := fun broken =>
      broken.cons_cases.elim unbroken fun ⟨isBreak, starts⟩ => lone isBreak (starts.append _)
    have solid' : EndsSolid (c :: block) := by
      cases block with
      | nil =>
        rw [EndsSolid, List.getLast?_singleton]
        rintro _ ⟨⟩
        by_contra here
        have widened : IsGap ([c] ++ gap) := isGap.append_left (by simpa using here)
        cases none.symm.trans (widened.afterGap?_append rest)
      | cons d block => simpa [EndsSolid, List.getLast?_cons_cons] using solid
    exact .gap unbroken' solid' isGap whole isCut

theorem isCut_blocks (cs : List Char) : IsCut cs (blocks cs) := by
  induction cs using blocks_induction with
  | nil =>
    rw [blocks_nil]
    exact .last (not_hasBlankLine_of_few (by decide))
  | gap cs rest found ih =>
    obtain ⟨gap, rfl, isGap, whole⟩ := isGap_of_afterGap? found
    have nothing : ¬ HasBlankLine [] := not_hasBlankLine_of_few (by decide)
    rw [blocks_of_gap found]
    exact .gap nothing (by simp [EndsSolid]) isGap whole ih
  | cons c cs none ih =>
    obtain ⟨block, more, split, grown⟩ := exists_blocks_cons none
    rw [split] at ih
    rw [grown]
    exact ih.cons none

theorem isCut_iff : IsCut cs bs ↔ bs = blocks cs :=
  ⟨IsCut.eq_blocks, fun same => same ▸ isCut_blocks cs⟩

end Gaps

section Blocks

-- Blanks and comments in front of what follows. With nothing behind it, a line comment needs no
-- line break.
def IsComments (cs rest : List Char) : Prop :=
  ∃ remarks : List Remark, (∀ r ∈ remarks, r.WellFormed) ∧
    (cs = Remark.text remarks ∨
      rest = [] ∧ ∃ body, '\n' ∉ body ∧ cs = Remark.text remarks ++ '-' :: '-' :: body)

theorem IsComments.cons {r : Remark} (wellFormed : r.WellFormed) (comments : IsComments cs rest) :
    IsComments (r.chars ++ cs) rest := by
  obtain ⟨remarks, all, split⟩ := comments
  refine ⟨r :: remarks, List.forall_mem_cons.mpr ⟨wellFormed, all⟩, ?_⟩
  rcases split with rfl | ⟨rfl, body, line, rfl⟩
  · exact .inl rfl
  · exact .inr ⟨rfl, body, line, by simp⟩

theorem remark_of_afterComment? (found : afterComment? cs = some rest) :
    (∃ r : Remark, r.WellFormed ∧ cs = r.chars ++ rest) ∨
      rest = [] ∧ ∃ body, '\n' ∉ body ∧ cs = '-' :: '-' :: body := by
  revert found
  fun_cases afterComment? cs with
  | case1 cs =>
    intro found
    obtain rfl := Option.some.inj found
    have line : '\n' ∉ cs.takeWhile (· != '\n') := fun member => by
      simpa using List.all_eq_true.mp List.all_takeWhile _ member
    have whole := List.takeWhile_append_dropWhile (p := (· != '\n')) (l := cs)
    cases behind : cs.dropWhile (· != '\n') with
    | nil =>
      rw [behind, List.append_nil] at whole
      exact .inr ⟨rfl, cs, whole ▸ line, rfl⟩
    | cons c rest =>
      have stopped := @Piece.head?_dropWhile_eq_false cs (· != '\n') c (by simp [behind])
      obtain rfl : c = '\n' := by simpa using stopped
      refine .inl ⟨.line (cs.takeWhile (· != '\n')), line, ?_⟩
      rw [behind] at whole
      simp [Remark.chars, whole]
  | case2 cs =>
    intro found
    obtain ⟨⟨body, rest⟩, inner, rfl⟩ := Option.map_eq_some_iff.mp found
    refine .inl ⟨.block body, Text.closedBy_of_breakAt? inner, ?_⟩
    simp [Remark.chars, Text.eq_of_breakAt? inner]
  | case3 => simp

theorem exists_isComments (cs : List Char) :
    ∃ front, cs = front ++ afterComments cs ∧ IsComments front (afterComments cs) := by
  induction cs using afterComments.induct with
  | case1 => exact ⟨[], by simp, [], by simp, .inl rfl⟩
  | case2 c cs blank ih =>
    obtain ⟨front, whole, comments⟩ := ih
    rw [afterComments_blank blank]
    exact ⟨c :: front, congrArg _ whole, comments.cons (r := .blank c) blank⟩
  | case3 c cs _ rest found _ ih =>
    obtain ⟨front, whole, comments⟩ := ih
    rw [afterComments_comment found]
    rcases remark_of_afterComment? found with ⟨r, wellFormed, same⟩ | ⟨rfl, body, line, same⟩
    · exact ⟨r.chars ++ front, by rw [same, List.append_assoc, ← whole], comments.cons wellFormed⟩
    · exact ⟨c :: cs, by simp, [], by simp, .inr ⟨by simp, body, line, by simp [same]⟩⟩
  | case4 c cs solid none =>
    rw [afterComments_of_none (by simpa using solid) none]
    exact ⟨[], rfl, [], by simp, .inl rfl⟩

theorem afterComments_start (cs : List Char) :
    (∀ c ∈ (afterComments cs).head?, Text.isBlank c = false) ∧
      ¬ StartsWithComment (afterComments cs) := by
  induction cs using afterComments.induct with
  | case1 =>
    rw [afterComments_nil]
    exact ⟨by simp, by decide⟩
  | case2 c cs blank ih => rwa [afterComments_blank blank]
  | case3 c cs _ rest found _ ih => rwa [afterComments_comment found]
  | case4 c cs solid none =>
    have first : ∀ d ∈ (c :: cs).head?, Text.isBlank d = false := by simpa using solid
    rw [afterComments_of_none first none]
    exact ⟨first, afterComment?_eq_none_iff.mp none⟩

end Blocks

section Parts

structure IsEnding (ending : List Char) : Prop where
  blank : ∀ c ∈ ending, Text.isBlank c = true ∨ c = ';'
  single : ending.count ';' ≤ 1

theorem IsEnding.of_blank {blanks : List Char} (blank : ∀ c ∈ blanks, Text.isBlank c = true) :
    IsEnding blanks where
  blank c member := .inl (blank c member)
  single := by
    rw [List.count_eq_zero_of_not_mem fun member => absurd (blank _ member) (by decide)]
    exact Nat.zero_le 1

theorem IsEnding.append_blank {ending blanks : List Char} (isEnding : IsEnding ending)
    (blank : ∀ c ∈ blanks, Text.isBlank c = true) : IsEnding (ending ++ blanks) where
  blank c member := (List.mem_append.mp member).elim (isEnding.blank c) fun within =>
    .inl (blank c within)
  single := by
    rw [List.count_append,
      List.count_eq_zero_of_not_mem fun member => absurd (blank _ member) (by decide)]
    exact isEnding.single

structure Part where
  comments : List Char
  sql : List Char
  ending : List Char
  deriving DecidableEq, Repr

def Part.text (part : Part) : List Char :=
  part.comments ++ (part.sql ++ part.ending)

structure Part.WellFormed (part : Part) : Prop where
  comments : IsComments part.comments (part.sql ++ part.ending)
  isEnding : IsEnding part.ending
  -- A semicolon stays in the statement only when another one was behind it.
  ended : part.sql.getLast? = some ';' → ';' ∈ part.ending

structure IsClean (cs : List Char) : Prop where
  nonempty : cs ≠ []
  trimmed : Text.trim cs = cs
  uncommented : ¬ StartsWithComment cs
  unbroken : ¬ HasBlankLine cs

theorem StartsWithComment.of_prefix (starts : StartsWithComment s) (front : s <+: t) :
    StartsWithComment t := by
  obtain ⟨after, rfl⟩ := front
  rcases starts with dashes | ⟨body, rfl, closed⟩
  · exact .inl (dashes.trans (List.prefix_append s after))
  · exact .inr ⟨body ++ after, rfl, closed.trans (List.prefix_append body after).isInfix⟩

theorem HasBlankLine.of_infix (broken : HasBlankLine s) (inside : s <:+: t) : HasBlankLine t := by
  obtain ⟨before', after', rfl⟩ := inside
  obtain ⟨before, blanks, after, rfl, inLine⟩ := broken
  exact ⟨before' ++ before, blanks, after ++ after', by simp, inLine⟩

theorem IsCut.unbroken (isCut : IsCut cs bs) : ∀ block ∈ bs, ¬ HasBlankLine block := by
  induction isCut with
  | last unbroken => simpa using unbroken
  | gap unbroken _ _ _ _ ih => exact List.forall_mem_cons.mpr ⟨unbroken, ih⟩

theorem withoutSemicolon_split (trimmed : Text.trimEnd cs = cs) :
    ∃ ending, cs = withoutSemicolon cs ++ ending ∧ IsEnding ending ∧
      Text.trimEnd (withoutSemicolon cs) = withoutSemicolon cs ∧
      ((withoutSemicolon cs).getLast? = some ';' → ';' ∈ ending) := by
  by_cases last : cs.getLast? = some ';'
  · obtain ⟨front, rfl⟩ := List.getLast?_eq_some_iff.mp last
    obtain ⟨blanks, split, blank⟩ := Text.exists_trimEnd front
    have none : ';' ∉ blanks := fun member => absurd (blank _ member) (by decide)
    rw [withoutSemicolon, if_pos last, List.dropLast_concat]
    refine ⟨blanks ++ [';'], ?_, ⟨?_, ?_⟩, ?_, fun _ => by simp⟩
    · rw [← List.append_assoc, ← split]
    · simp only [List.forall_mem_append, List.forall_mem_singleton, or_true, and_true]
      exact fun c member => .inl (blank c member)
    · simp [List.count_eq_zero_of_not_mem none]
    · exact Text.trimEnd_of_solid Text.not_isBlank_getLast_trimEnd
  · rw [withoutSemicolon, if_neg last]
    exact ⟨[], by simp, .of_blank (by simp), trimmed, fun here => absurd here last⟩

theorem exists_ending (block : List Char) :
    ∃ ending, afterComments block = blockText block ++ ending ∧ IsEnding ending ∧
      Text.trimEnd (blockText block) = blockText block ∧
      ((blockText block).getLast? = some ';' → ';' ∈ ending) := by
  obtain ⟨solid, -⟩ := afterComments_start block
  obtain ⟨blanks, split, blank⟩ := Text.exists_trimEnd (afterComments block)
  have trimmed : Text.trimEnd (Text.trimEnd (afterComments block)) =
      Text.trimEnd (afterComments block) := Text.trimEnd_of_solid Text.not_isBlank_getLast_trimEnd
  obtain ⟨ending, whole, isEnding, trimmed, ended⟩ := withoutSemicolon_split trimmed
  rw [blockText, Text.trim, Text.trimStart_of_solid solid]
  refine ⟨ending ++ blanks, ?_, isEnding.append_blank blank, trimmed, fun last => ?_⟩
  · rw [← List.append_assoc, ← whole, ← split]
  · exact List.mem_append_left blanks (ended last)

theorem exists_part (block : List Char) :
    ∃ part : Part, part.text = block ∧ part.WellFormed ∧ part.sql = blockText block := by
  obtain ⟨front, whole, comments⟩ := exists_isComments block
  obtain ⟨ending, split, isEnding, -, ended⟩ := exists_ending block
  refine ⟨⟨front, blockText block, ending⟩, ?_, ⟨split ▸ comments, isEnding, ended⟩, rfl⟩
  rw [Part.text, ← split, ← whole]

theorem isClean_blockText (unbroken : ¬ HasBlankLine block) (nonempty : blockText block ≠ []) :
    IsClean (blockText block) := by
  obtain ⟨solid, plain⟩ := afterComments_start block
  obtain ⟨front, whole, -⟩ := exists_isComments block
  obtain ⟨ending, split, -, trimmed, -⟩ := exists_ending block
  have first : ∀ c ∈ (blockText block).head?, Text.isBlank c = false := by
    intro c first
    apply solid
    rw [split, List.head?_append, Option.mem_def.mp first]
    rfl
  refine ⟨nonempty, ?_, ?_, ?_⟩
  · rw [Text.trim, Text.trimStart_of_solid first, trimmed]
  · exact fun starts => plain (starts.of_prefix ⟨ending, split.symm⟩)
  · refine fun broken => unbroken (broken.of_infix ⟨front, ending, ?_⟩)
    rw [List.append_assoc, ← split, ← whole]

/-- The text of a template is its gaps, and between them blocks that are comments, a statement and
an ending each; the statements are all there is besides. -/
theorem statements_parts (body : String) :
    ∃ parts : List Part,
      (∀ bs, IsCut body.toList bs ↔ bs = parts.map Part.text) ∧
      (∀ part ∈ parts, part.WellFormed) ∧
      statements body = ((parts.map Part.sql).filter (· ≠ [])).map String.ofList ∧
      ∀ s ∈ statements body, IsClean s.toList := by
  choose part whole wellFormed sql using exists_part
  have texts : (blocks body.toList).map (fun block => (part block).text) = blocks body.toList := by
    simp only [whole, List.map_id']
  refine ⟨(blocks body.toList).map part, fun bs => ?_, ?_, ?_, ?_⟩
  · rw [isCut_iff, List.map_map, Function.comp_def, texts]
  · exact List.forall_mem_map.mpr fun block _ => wellFormed block
  · simp only [List.map_map, Function.comp_def, sql]
    rfl
  · intro s member
    rw [statements_eq] at member
    obtain ⟨cs, inside, rfl⟩ := List.mem_map.mp member
    obtain ⟨inside, nonempty⟩ := List.mem_filter.mp inside
    obtain ⟨block, isBlock, rfl⟩ := List.mem_map.mp inside
    rw [String.toList_ofList]
    exact isClean_blockText ((isCut_blocks _).unbroken block isBlock) (by simpa using nonempty)

end Parts

end Template

end QueryBook
