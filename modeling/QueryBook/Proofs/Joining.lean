import QueryBook.Proofs.Gaps
import QueryBook.Proofs.Replacing
import Mathlib.Data.List.TakeWhile

set_option autoImplicit false

namespace QueryBook

namespace Text

variable {blanks cs mark body rest : List Char}

theorem trimEnd_append_blank (blank : ∀ c ∈ blanks, isBlank c = true) (cs : List Char) :
    trimEnd (cs ++ blanks) = trimEnd cs := by
  unfold trimEnd
  rw [List.reverse_append, List.dropWhile_append_of_pos]
  simpa using blank

theorem trim_append_blank (blank : ∀ c ∈ blanks, isBlank c = true) (cs : List Char) :
    trim (cs ++ blanks) = trim cs := by
  unfold trim trimStart
  rw [List.dropWhile_append]
  split
  next empty =>
    rw [List.isEmpty_iff.mp empty, List.dropWhile_eq_nil_iff.mpr blank]
  next => exact trimEnd_append_blank blank _

theorem exists_trimEnd (cs : List Char) :
    ∃ blanks, cs = trimEnd cs ++ blanks ∧ ∀ c ∈ blanks, isBlank c = true := by
  refine ⟨(cs.reverse.takeWhile isBlank).reverse, ?_, ?_⟩
  · rw [trimEnd, ← List.reverse_append, List.takeWhile_append_dropWhile, List.reverse_reverse]
  · intro c member
    exact List.all_eq_true.mp List.all_takeWhile c (List.mem_reverse.mp member)

theorem not_isBlank_getLast_trimEnd : ∀ c ∈ (trimEnd cs).getLast?, isBlank c = false := by
  intro c last
  rw [trimEnd, List.getLast?_reverse] at last
  have stopped := List.head?_dropWhile_not isBlank cs.reverse
  rw [Option.mem_def.mp last] at stopped
  exact stopped

theorem trimStart_of_solid (solid : ∀ c ∈ cs.head?, isBlank c = false) : trimStart cs = cs := by
  cases cs with
  | nil => rfl
  | cons c cs => rw [trimStart_cons, if_neg (by simpa using solid)]

theorem trimEnd_of_solid (solid : ∀ c ∈ cs.getLast?, isBlank c = false) : trimEnd cs = cs := by
  have same := @trimStart_of_solid cs.reverse (by simpa using solid)
  rw [trimEnd, ← trimStart, same, List.reverse_reverse]

theorem not_isBlank_head_of_trim (trimmed : trim cs = cs) : ∀ c ∈ cs.head?, isBlank c = false := by
  have length : cs.length ≤ (trimStart cs).length := by
    calc cs.length = (trimEnd (trimStart cs)).length := congrArg List.length trimmed.symm
      _ ≤ (trimStart cs).length := by
        unfold trimEnd
        rw [List.length_reverse]
        simpa using (List.dropWhile_suffix isBlank (l := (trimStart cs).reverse)).length_le
  have whole : trimStart cs = cs := (List.dropWhile_suffix isBlank).eq_of_length_le length
  intro c first
  cases cs with
  | nil => cases first
  | cons d cs =>
    cases first
    exact Bool.eq_false_iff.mpr (List.dropWhile_eq_self_iff.mp whole (Nat.zero_lt_succ _))

-- Spaces and words share no code point.
theorem not_isWord_of_isBlank {c : Char} (blank : isBlank c = true) : isWord c = false := by
  have apart : ∀ r ∈ blankRanges, ∀ n ∈ List.range' r.1 (r.2 + 1 - r.1),
      isWord (Char.ofNat n) = false := by
    decide +kernel
  obtain ⟨r, member, low, high⟩ := inRanges_iff.mp blank
  have inside : c.toNat ∈ List.range' r.1 (r.2 + 1 - r.1) := by
    rw [List.mem_range'_1]
    omega
  simpa using apart r member _ inside

theorem prefix_of_prefix_append_blank (blank : ∀ c ∈ blanks, isBlank c = true)
    (solid : ∀ c ∈ mark.getLast?, isBlank c = false) (within : mark <+: cs ++ blanks) :
    mark <+: cs := by
  obtain ⟨after, same⟩ := within
  rcases List.append_eq_append_iff.mp same with ⟨left, rfl, -⟩ | ⟨beyond, rfl, rfl⟩
  · exact ⟨left, rfl⟩
  · rcases List.eq_nil_or_concat beyond with rfl | ⟨inner, last, rfl⟩
    · simp
    · have isBlank := blank last (by simp)
      simp [solid last (by simp)] at isBlank

theorem breakAt?_append (found : breakAt? mark cs = some (body, rest)) (more : List Char) :
    breakAt? mark (cs ++ more) = some (body, rest ++ more) := by
  rw [eq_of_breakAt? found, List.append_assoc, List.append_assoc]
  exact breakAt?_of_closedBy (closedBy_of_breakAt? found) (rest ++ more)

end Text

namespace Template

variable {c : Char} {cs rest blanks : List Char}

section Comments

-- A comment is at the start of the text; one between marks is closed.
def StartsWithComment (cs : List Char) : Prop :=
  ['-', '-'] <+: cs ∨ ∃ body, cs = '/' :: '*' :: body ∧ ['*', '/'] <:+: body

theorem isSome_afterComment?_iff : (afterComment? cs).isSome ↔ StartsWithComment cs := by
  fun_cases afterComment? cs with
  | case1 rest => simp [StartsWithComment]
  | case2 body => simp [StartsWithComment, Text.isSome_breakAt?_iff]
  | case3 cs line block =>
    simp only [Option.isSome_none, Bool.false_eq_true, false_iff]
    rintro (⟨rest, rfl⟩ | ⟨body, rfl, -⟩)
    · exact line rest rfl
    · exact block body rfl

instance (cs : List Char) : Decidable (StartsWithComment cs) :=
  decidable_of_iff _ isSome_afterComment?_iff

theorem afterComment?_eq_none_iff : afterComment? cs = none ↔ ¬ StartsWithComment cs := by
  rw [← isSome_afterComment?_iff, Option.not_isSome_iff_eq_none]

theorem isBlank_of_comment (found : afterComment? (c :: cs) = some rest) :
    Text.isBlank c = false := by
  unfold afterComment? at found
  split at found
  next first =>
    cases first
    rfl
  next first =>
    cases first
    rfl
  next => cases found

@[simp] theorem afterComments_nil : afterComments [] = [] := by
  rw [afterComments]

theorem afterComments_blank (blank : Text.isBlank c = true) (cs : List Char) :
    afterComments (c :: cs) = afterComments cs := by
  rw [afterComments, if_pos blank]

theorem afterComments_comment (found : afterComment? cs = some rest) :
    afterComments cs = afterComments rest := by
  cases cs with
  | nil => cases found
  | cons c cs =>
    rw [afterComments, if_neg (by simp [isBlank_of_comment found])]
    split
    next rest' found' =>
      obtain rfl := Option.some.inj (found.symm.trans found')
      rfl
    next none => cases found.symm.trans none

theorem afterComments_of_none (solid : ∀ c ∈ cs.head?, Text.isBlank c = false)
    (none : afterComment? cs = none) : afterComments cs = cs := by
  cases cs with
  | nil => exact afterComments_nil
  | cons c cs =>
    rw [afterComments, if_neg (by simpa using solid)]
    split
    next rest found => cases none.symm.trans found
    next => rfl

theorem afterComments_append_of_blank (blank : ∀ c ∈ blanks, Text.isBlank c = true)
    (cs : List Char) : afterComments (blanks ++ cs) = afterComments cs := by
  induction blanks with
  | nil => rfl
  | cons c blanks ih =>
    obtain ⟨here, later⟩ := List.forall_mem_cons.mp blank
    rw [List.cons_append, afterComments_blank here, ih later]

-- Blanks at the end do not begin, close or lengthen what a comment takes away, but that a comment
-- up to the end of the line may take some of them.
theorem exists_afterComment?_append (found : afterComment? cs = some rest)
    (blank : ∀ c ∈ blanks, Text.isBlank c = true) :
    ∃ left, afterComment? (cs ++ blanks) = some (rest ++ left) ∧
      ∀ c ∈ left, Text.isBlank c = true := by
  revert found
  fun_cases afterComment? cs with
  | case1 cs =>
    intro found
    cases found
    simp only [List.cons_append, afterComment?, List.dropWhile_append]
    split
    next empty =>
      refine ⟨(blanks.dropWhile (· != '\n')).drop 1, by simp [List.isEmpty_iff.mp empty], ?_⟩
      exact fun c member =>
        blank c ((List.dropWhile_suffix _).subset (List.mem_of_mem_drop member))
    next nonempty =>
      refine ⟨blanks, ?_, blank⟩
      rw [List.drop_append_of_le_length]
      exact List.length_pos_iff.mpr fun empty => nonempty (List.isEmpty_iff.mpr empty)
  | case2 cs =>
    simp only [Option.map_eq_some_iff, Prod.exists, exists_eq_right]
    rintro ⟨body, found⟩
    refine ⟨blanks, ?_, blank⟩
    simp only [List.cons_append, afterComment?, Text.breakAt?_append found, Option.map_some]
  | case3 => intro found; cases found

theorem not_startsWithComment_append (plain : ¬ StartsWithComment cs)
    (blank : ∀ c ∈ blanks, Text.isBlank c = true) : ¬ StartsWithComment (cs ++ blanks) := by
  rintro (dashes | ⟨body, same, ⟨inside, after, rfl⟩⟩)
  · refine plain (.inl (Text.prefix_of_prefix_append_blank blank ?_ dashes))
    rintro c ⟨⟩
    rfl
  · have opened : '/' :: '*' :: inside ++ ['*', '/'] <+: cs ++ blanks := ⟨after, by simp [same]⟩
    have ends : ('/' :: '*' :: inside ++ ['*', '/']).getLast? = some '/' := by
      rw [List.getLast?_append]
      rfl
    obtain ⟨left, rfl⟩ := Text.prefix_of_prefix_append_blank blank (by rw [ends]; rintro c ⟨⟩; rfl)
      opened
    exact plain (.inr ⟨inside ++ ['*', '/'] ++ left, by simp, ⟨inside, left, rfl⟩⟩)

theorem exists_afterComments_append (blank : ∀ c ∈ blanks, Text.isBlank c = true)
    (cs : List Char) : ∃ left, afterComments (cs ++ blanks) = afterComments cs ++ left ∧
      ∀ c ∈ left, Text.isBlank c = true := by
  induction cs using afterComments.induct generalizing blanks with
  | case1 =>
    refine ⟨[], ?_, by simp⟩
    have all := afterComments_append_of_blank blank []
    simpa using all
  | case2 c cs here ih =>
    simpa only [List.cons_append, afterComments_blank here] using ih blank
  | case3 c cs here rest found shorter ih =>
    obtain ⟨left, found', blank'⟩ := exists_afterComment?_append found blank
    rw [afterComments_comment found, afterComments_comment found']
    exact ih blank'
  | case4 c cs solid none =>
    have first : Text.isBlank c = false := by simpa using solid
    have plain := not_startsWithComment_append (afterComment?_eq_none_iff.mp none) blank
    refine ⟨blanks, ?_, blank⟩
    rw [afterComments_of_none (by simpa using first) none,
      afterComments_of_none (by simpa using first) (afterComment?_eq_none_iff.mpr plain)]

end Comments

section BlockTexts

variable {xs ys : List (List Char)}

theorem blockText_append_blank (blank : ∀ c ∈ blanks, Text.isBlank c = true) (cs : List Char) :
    blockText (cs ++ blanks) = blockText cs := by
  obtain ⟨left, same, blank'⟩ := exists_afterComments_append blank cs
  rw [blockText, same, Text.trim_append_blank blank', blockText]

theorem blockText_blank_append (blank : ∀ c ∈ blanks, Text.isBlank c = true) (cs : List Char) :
    blockText (blanks ++ cs) = blockText cs := by
  rw [blockText, afterComments_append_of_blank blank, blockText]

@[simp] theorem blockText_nil : blockText [] = [] := by
  simp [blockText, Text.trim, withoutSemicolon]

def blockTexts (bs : List (List Char)) : List (List Char) :=
  (bs.map blockText).filter (· ≠ [])

theorem statements_eq (body : String) :
    statements body = (blockTexts (blocks body.toList)).map String.ofList :=
  rfl

@[simp] theorem blockTexts_append (xs ys : List (List Char)) :
    blockTexts (xs ++ ys) = blockTexts xs ++ blockTexts ys := by
  simp [blockTexts]

theorem blockTexts_cons (block : List Char) (bs : List (List Char)) :
    blockTexts (block :: bs) = blockTexts [block] ++ blockTexts bs :=
  blockTexts_append [block] bs

@[simp] theorem blockTexts_nil_cons (bs : List (List Char)) :
    blockTexts ([] :: bs) = blockTexts bs := by
  simp [blockTexts]

theorem blockTexts_of_blank (blank : ∀ block ∈ xs, ∀ c ∈ block, Text.isBlank c = true) :
    blockTexts xs = [] := by
  refine List.filter_eq_nil_iff.mpr fun text member => ?_
  obtain ⟨block, inside, rfl⟩ := List.mem_map.mp member
  have empty := blockText_append_blank (blank block inside) []
  simpa using empty

-- Blank blocks have no text, and the one that is glued on adds nothing to the block before it.
theorem blockTexts_glue_of_blank (some_block : xs ≠ []) (some_blank : ys ≠ [])
    (blank : ∀ block ∈ ys, ∀ c ∈ block, Text.isBlank c = true) :
    blockTexts (glue xs ys) = blockTexts xs := by
  obtain ⟨front, last, rfl⟩ := (List.eq_nil_or_concat xs).resolve_left some_block
  obtain ⟨next, more, rfl⟩ := List.exists_cons_of_ne_nil some_blank
  obtain ⟨here, later⟩ := List.forall_mem_cons.mp blank
  rw [List.concat_eq_append, glue_concat, blockTexts_append, blockTexts_append,
    blockTexts_cons (last ++ next), blockTexts_of_blank later]
  simp [blockTexts, blockText_append_blank here]

theorem glue_nil_cons (some_block : xs ≠ []) (ys : List (List Char)) :
    glue xs ([] :: ys) = xs ++ ys := by
  obtain ⟨front, last, rfl⟩ := (List.eq_nil_or_concat xs).resolve_left some_block
  simp [glue_concat]

theorem blockTexts_lineBreaks (cs : List Char) :
    blockTexts (blocks (lineBreaks cs).2) = blockTexts (blocks cs) := by
  induction cs with
  | nil => rw [lineBreaks_nil]
  | cons c cs ih =>
    by_cases many : 2 ≤ (lineBreaks (c :: cs)).1
    · rw [blocks_of_gap (afterGap?_eq_some_iff.mpr ⟨many, rfl⟩), blockTexts_nil_cons]
    · have none : afterGap? (c :: cs) = none := afterGap?_eq_none_iff.mpr (Nat.lt_of_not_le many)
      obtain ⟨block, more, split, grown⟩ := exists_blocks_cons none
      have skipped (gap : isGapChar c = true) :
          blockTexts (blocks (c :: cs)) = blockTexts (blocks cs) := by
        have front : blockText ([c] ++ block) = blockText block :=
          blockText_blank_append (by simpa using isBlank_of_isGapChar gap) block
        rw [grown, split, blockTexts_cons, blockTexts_cons block]
        simp only [blockTexts, List.map_cons, List.map_nil]
        rw [← front, List.singleton_append]
      rcases cases_gapChar c with rfl | blank | solid
      · rw [lineBreaks_break, ih, skipped rfl]
      · rw [lineBreaks_blank blank]
        split
        · rfl
        · rw [ih, skipped (isGapChar_of_isLineBlank blank)]
      · rw [lineBreaks_solid solid]

theorem exists_endsSolid (cs : List Char) :
    ∃ s gap, cs = s ++ gap ∧ EndsSolid s ∧ ∀ c ∈ gap, isGapChar c = true := by
  induction cs using List.reverseRecOn with
  | nil => exact ⟨[], [], rfl, by simp [EndsSolid], by simp⟩
  | append_singleton cs c ih =>
    by_cases here : isGapChar c = true
    · obtain ⟨s, gap, rfl, solid, inside⟩ := ih
      refine ⟨s, gap ++ [c], by simp, solid, ?_⟩
      simpa [or_imp, forall_and] using ⟨inside, here⟩
    · exact ⟨cs ++ [c], [], by simp, by simpa [EndsSolid] using here, by simp⟩

-- A gap divides the blocks before it from those after it, whatever they end or begin with: it takes
-- in what belongs to gaps on both sides.
theorem blockTexts_parted {gap : List Char} (isGap : IsGap gap) (b c : List Char) :
    blockTexts (blocks (b ++ (gap ++ c))) = blockTexts (blocks b) ++ blockTexts (blocks c) := by
  obtain ⟨s, front, rfl, solid, inside⟩ := exists_endsSolid b
  have widened : blocks (front ++ (gap ++ c)) = [] :: blocks (lineBreaks c).2 := by
    rw [← List.append_assoc]
    exact blocks_of_gap ((isGap.append_left inside).afterGap?_append c)
  have blank : ∀ block ∈ blocks front, ∀ c ∈ block, Text.isBlank c = true :=
    fun _ member c within => isBlank_of_isGapChar (inside c (mem_of_mem_blocks member within))
  calc blockTexts (blocks (s ++ front ++ (gap ++ c)))
      = blockTexts (glue (blocks s) ([] :: blocks (lineBreaks c).2)) := by
        rw [List.append_assoc, blocks_append solid, widened]
    _ = blockTexts (blocks s) ++ blockTexts (blocks c) := by
        rw [glue_nil_cons (blocks_ne_nil s), blockTexts_append, blockTexts_lineBreaks]
    _ = blockTexts (blocks (s ++ front)) ++ blockTexts (blocks c) := by
        rw [blocks_append solid,
          blockTexts_glue_of_blank (blocks_ne_nil s) (blocks_ne_nil front) blank]

end BlockTexts

structure IsStatement (cs : List Char) : Prop where
  nonempty : cs ≠ []
  trimmed : Text.trim cs = cs
  uncommented : ¬ StartsWithComment cs
  unended : cs.getLast? ≠ some ';'
  unbroken : ¬ HasBlankLine cs

theorem IsStatement.blockText (isStatement : IsStatement cs) : blockText cs = cs := by
  have solid := Text.not_isBlank_head_of_trim isStatement.trimmed
  have plain := afterComment?_eq_none_iff.mpr isStatement.uncommented
  rw [Template.blockText, afterComments_of_none solid plain, isStatement.trimmed, withoutSemicolon,
    if_neg isStatement.unended]

theorem IsStatement.statements {s : String} (isStatement : IsStatement s.toList) :
    statements s = [s] := by
  rw [statements_eq, blocks_of_unbroken isStatement.unbroken]
  simp [blockTexts, isStatement.blockText, isStatement.nonempty]

theorem statements_empty : statements "" = [] := by
  simp [statements_eq, blockTexts]

theorem statements_append (b c : String) :
    statements (b ++ "\n\n" ++ c) = statements b ++ statements c := by
  have whole : (b ++ "\n\n" ++ c).toList = b.toList ++ (['\n', '\n'] ++ c.toList) := by simp
  have isGap : IsGap ['\n', '\n'] := ⟨by simp [isGapChar], rfl, by decide⟩
  simp only [statements_eq, whole, blockTexts_parted isGap, List.map_append]

/-- Templates that are joined by an empty line have the statements of the one, then of the other. -/
theorem statements_joined :
    (∀ b c : String, statements (b ++ "\n\n" ++ c) = statements b ++ statements c) ∧
    ∀ ss : List String, (∀ s ∈ ss, IsStatement s.toList) →
      statements ("\n\n".intercalate ss) = ss := by
  refine ⟨statements_append, fun ss all => ?_⟩
  induction ss with
  | nil => simpa using statements_empty
  | cons s rest ih =>
    obtain ⟨here, later⟩ := List.forall_mem_cons.mp all
    cases rest with
    | nil => simpa using here.statements
    | cons second rest =>
      rw [String.intercalate_cons_cons, statements_append, here.statements, ih later,
        List.singleton_append]

-- A comment that is never closed, a line break and what could begin a comment are left alone.
theorem statements_joined_texts :
    let ss := ["/* open", "SELECT 1\n  FROM t", "-"]
    (∀ s ∈ ss, IsStatement s.toList) ∧ statements ("\n\n".intercalate ss) = ss := by
  intro ss
  have few (cs : List Char) (breaks : cs.count '\n' < 2) : ¬ HasBlankLine cs :=
    fun broken => absurd broken.two_le_count (Nat.not_le.mpr breaks)
  have all : ∀ s ∈ ss, IsStatement s.toList := by
    simp only [ss, List.forall_mem_cons]
    refine ⟨?_, ?_, ?_, by simp⟩ <;>
      exact ⟨by decide, by decide, by decide, by decide, few _ (by decide)⟩
  exact ⟨all, statements_joined.2 ss all⟩

end Template

end QueryBook
