import QueryBook.Proofs.PlainText

set_option autoImplicit false

namespace QueryBook.Template

def isGapChar (c : Char) : Bool :=
  isLineBlank c || c == '\n'

variable {c : Char} {cs rest s t block : List Char}

theorem isBlank_of_isGapChar (gap : isGapChar c = true) : Text.isBlank c = true := by
  simp only [isGapChar, isLineBlank, Bool.or_eq_true, beq_iff_eq] at gap
  rcases gap with ((((rfl | rfl) | rfl) | rfl) | rfl) | rfl <;> decide

theorem isGapChar_of_isLineBlank (blank : isLineBlank c = true) : isGapChar c = true := by
  simp [isGapChar, blank]

section LineBreaks

theorem afterLineBreak?_break (cs : List Char) : afterLineBreak? ('\n' :: cs) = some cs := by
  have break_ : isLineBlank '\n' = false := rfl
  simp [afterLineBreak?, break_]

theorem afterLineBreak?_blank (blank : isLineBlank c = true) (cs : List Char) :
    afterLineBreak? (c :: cs) = afterLineBreak? cs := by
  simp [afterLineBreak?, blank]

theorem afterLineBreak?_solid (solid : isGapChar c = false) (cs : List Char) :
    afterLineBreak? (c :: cs) = none := by
  simp only [isGapChar, Bool.or_eq_false_iff, beq_eq_false_iff_ne] at solid
  simp [afterLineBreak?, solid]

theorem lineBreaks_eq (cs : List Char) :
    lineBreaks cs =
      match afterLineBreak? cs with
      | some rest => ((lineBreaks rest).1 + 1, (lineBreaks rest).2)
      | none => (0, cs) := by
  rw [lineBreaks]
  split
  next rest found => simp [found]
  next none => simp [none]

@[simp] theorem lineBreaks_nil : lineBreaks [] = (0, []) := by
  rw [lineBreaks_eq]
  rfl

@[simp] theorem lineBreaks_break (cs : List Char) :
    lineBreaks ('\n' :: cs) = ((lineBreaks cs).1 + 1, (lineBreaks cs).2) := by
  rw [lineBreaks_eq, afterLineBreak?_break]

-- Blanks count only when a line break comes after them.
theorem lineBreaks_blank (blank : isLineBlank c = true) (cs : List Char) :
    lineBreaks (c :: cs) = if (lineBreaks cs).1 = 0 then (0, c :: cs) else lineBreaks cs := by
  rw [lineBreaks_eq (c :: cs), afterLineBreak?_blank blank, lineBreaks_eq cs]
  cases afterLineBreak? cs <;> simp

theorem lineBreaks_solid (solid : isGapChar c = false) (cs : List Char) :
    lineBreaks (c :: cs) = (0, c :: cs) := by
  rw [lineBreaks_eq, afterLineBreak?_solid solid]

theorem cases_gapChar (c : Char) :
    c = '\n' ∨ isLineBlank c = true ∨ isGapChar c = false := by
  unfold isGapChar
  cases isLineBlank c <;> simp [Decidable.em]

theorem lineBreaks_append_of_solid (solid : ∃ c ∈ s, isGapChar c = false) (t : List Char) :
    lineBreaks (s ++ t) = ((lineBreaks s).1, (lineBreaks s).2 ++ t) := by
  induction s with
  | nil => simp at solid
  | cons c cs ih =>
    rcases cases_gapChar c with rfl | blank | here
    · have later : ∃ c ∈ cs, isGapChar c = false := by simpa [isGapChar] using solid
      simp [ih later]
    · have later : ∃ c ∈ cs, isGapChar c = false := by
        simpa [isGapChar_of_isLineBlank blank] using solid
      rw [List.cons_append, lineBreaks_blank blank, lineBreaks_blank blank, ih later]
      split <;> rfl
    · simp [lineBreaks_solid here]

theorem lineBreaks_append_of_gap (gap : ∀ c ∈ s, isGapChar c = true) (t : List Char) :
    lineBreaks (s ++ '\n' :: t) = (s.count '\n' + 1 + (lineBreaks t).1, (lineBreaks t).2) := by
  induction s with
  | nil => simp [Nat.add_comm]
  | cons c cs ih =>
    obtain ⟨here, later⟩ := List.forall_mem_cons.mp gap
    rcases cases_gapChar c with rfl | blank | solid
    · simp [ih later]
      omega
    · have different : c ≠ '\n' := by
        rintro rfl
        cases blank
      rw [List.cons_append, lineBreaks_blank blank, ih later, if_neg (by simp),
        List.count_cons_of_ne different]
    · simp [here] at solid

theorem exists_of_afterLineBreak? (found : afterLineBreak? cs = some rest) :
    ∃ blanks, cs = blanks ++ '\n' :: rest ∧ ∀ c ∈ blanks, isLineBlank c = true := by
  unfold afterLineBreak? at found
  split at found
  next after same =>
    cases found
    refine ⟨cs.takeWhile isLineBlank, ?_, List.all_eq_true.mp List.all_takeWhile⟩
    rw [← same, List.takeWhile_append_dropWhile]
  next => cases found

theorem exists_lineBreaks (cs : List Char) :
    ∃ gap, cs = gap ++ (lineBreaks cs).2 ∧ (∀ c ∈ gap, isGapChar c = true) ∧
      gap.count '\n' = (lineBreaks cs).1 ∧ (gap ≠ [] → gap.getLast? = some '\n') ∧
      (lineBreaks (lineBreaks cs).2).1 = 0 := by
  fun_induction lineBreaks cs with
  | case1 cs rest found _ count after same ih =>
    rw [same] at ih
    obtain ⟨gap, whole, inside, counted, ends, stops⟩ := ih
    obtain ⟨blanks, split, inLine⟩ := exists_of_afterLineBreak? found
    have unbroken : '\n' ∉ blanks := fun member => absurd (inLine _ member) (by decide)
    refine ⟨blanks ++ '\n' :: gap, ?_, ?_, ?_, fun _ => ?_, stops⟩
    · rw [List.append_assoc, List.cons_append, ← whole, ← split]
    · simp only [List.forall_mem_append, List.forall_mem_cons]
      exact ⟨fun c member => isGapChar_of_isLineBlank (inLine c member), rfl, inside⟩
    · rw [List.count_append, List.count_eq_zero_of_not_mem unbroken, List.count_cons_self, counted,
        Nat.zero_add]
    · cases gap with
      | nil => simp
      | cons c gap => simp [List.getLast?_append, List.getLast?_cons_cons, ends]
  | case2 cs none =>
    have here : lineBreaks cs = (0, cs) := by rw [lineBreaks_eq, none]
    exact ⟨[], by simp, by simp, by simp, by simp, by simp [here]⟩

end LineBreaks

section Blocks

theorem afterGap?_eq_some_iff :
    afterGap? cs = some rest ↔ 2 ≤ (lineBreaks cs).1 ∧ rest = (lineBreaks cs).2 := by
  simp [afterGap?, eq_comm]

theorem afterGap?_eq_none_iff : afterGap? cs = none ↔ (lineBreaks cs).1 < 2 := by
  simp [afterGap?]

-- Two or more line breaks, each with nothing but blanks before it.
structure IsGap (gap : List Char) : Prop where
  chars : ∀ c ∈ gap, isGapChar c = true
  ends : gap.getLast? = some '\n'
  many : 2 ≤ gap.count '\n'

theorem IsGap.lineBreaks_append {gap : List Char} (isGap : IsGap gap) (cs : List Char) :
    lineBreaks (gap ++ cs) = (gap.count '\n' + (lineBreaks cs).1, (lineBreaks cs).2) := by
  obtain ⟨front, rfl⟩ := List.getLast?_eq_some_iff.mp isGap.ends
  have inside : ∀ c ∈ front, isGapChar c = true := fun c member =>
    isGap.chars c (List.mem_append_left _ member)
  rw [← List.append_cons, lineBreaks_append_of_gap inside]
  simp

theorem IsGap.afterGap?_append {gap : List Char} (isGap : IsGap gap) (cs : List Char) :
    afterGap? (gap ++ cs) = some (lineBreaks cs).2 := by
  have many := isGap.many
  rw [afterGap?_eq_some_iff, isGap.lineBreaks_append]
  exact ⟨by simp only; omega, rfl⟩

theorem IsGap.append_left {gap front : List Char} (isGap : IsGap gap)
    (inside : ∀ c ∈ front, isGapChar c = true) : IsGap (front ++ gap) where
  chars c member := (List.mem_append.mp member).elim (inside c) (isGap.chars c)
  ends := by simp [List.getLast?_append, isGap.ends]
  many := by
    have many := isGap.many
    rw [List.count_append]
    omega

@[simp] theorem blocks_nil : blocks [] = [[]] := by
  rw [blocks, cut]

theorem blocks_of_gap (found : afterGap? cs = some rest) : blocks cs = [] :: blocks rest := by
  cases cs with
  | nil => simp [afterGap?] at found
  | cons c cs =>
    have cuts : cut (c :: cs) = ([], blocks rest) := by
      rw [cut]
      split
      next rest' found' =>
        obtain rfl := Option.some.inj (found.symm.trans found')
        rfl
      next none => cases found.symm.trans none
    simp only [blocks, cuts]

theorem exists_blocks_cons (none : afterGap? (c :: cs) = none) :
    ∃ block more, blocks cs = block :: more ∧ blocks (c :: cs) = (c :: block) :: more := by
  have cuts : cut (c :: cs) = (c :: (cut cs).1, (cut cs).2) := by
    rw [cut]
    split
    next rest found => cases none.symm.trans found
    next => rfl
  exact ⟨(cut cs).1, (cut cs).2, rfl, by simp only [blocks, cuts]⟩

theorem blocks_ne_nil (cs : List Char) : blocks cs ≠ [] := by
  simp [blocks]

theorem blocks_induction {motive : List Char → Prop} (nil : motive [])
    (gap : ∀ cs rest, afterGap? cs = some rest → motive rest → motive cs)
    (cons : ∀ c cs, afterGap? (c :: cs) = none → motive cs → motive (c :: cs)) (cs : List Char) :
    motive cs := by
  induction cs using cut.induct with
  | case1 => exact nil
  | case2 c cs rest found _ _ _ _ ih => exact gap _ rest found ih
  | case3 c cs none _ _ _ ih => exact cons c cs none ih

theorem mem_of_mem_blocks (member : block ∈ blocks cs) (inside : c ∈ block) : c ∈ cs := by
  induction cs using blocks_induction generalizing block with
  | nil =>
    rw [blocks_nil, List.mem_singleton] at member
    subst member
    cases inside
  | gap cs rest found ih =>
    rw [blocks_of_gap found] at member
    obtain ⟨-, rfl⟩ := afterGap?_eq_some_iff.mp found
    obtain ⟨gap, whole, -⟩ := exists_lineBreaks cs
    rcases List.mem_cons.mp member with rfl | member
    · cases inside
    · rw [whole]
      exact List.mem_append_right gap (ih member inside)
  | cons d cs none ih =>
    obtain ⟨first, more, split, grown⟩ := exists_blocks_cons none
    rw [grown] at member
    rcases List.mem_cons.mp member with rfl | member
    · rcases List.mem_cons.mp inside with rfl | inside
      · exact List.mem_cons_self ..
      · exact List.mem_cons_of_mem d (ih (split ▸ List.mem_cons_self ..) inside)
    · exact List.mem_cons_of_mem d (ih (split ▸ List.mem_cons_of_mem _ member) inside)

def glue : List (List Char) → List (List Char) → List (List Char)
  | [], others => others
  | [block], next :: more => (block ++ next) :: more
  | block :: more, others => block :: glue more others

theorem glue_cons {xs : List (List Char)} (some_block : xs ≠ []) (block : List Char)
    (ys : List (List Char)) : glue (block :: xs) ys = block :: glue xs ys := by
  cases xs with
  | nil => exact absurd rfl some_block
  | cons x xs => rw [glue]; simp

theorem glue_concat (front : List (List Char)) (last next : List Char)
    (more : List (List Char)) :
    glue (front ++ [last]) (next :: more) = front ++ (last ++ next) :: more := by
  induction front with
  | nil => rfl
  | cons block front ih => rw [List.cons_append, glue_cons (by simp), ih, List.cons_append]

def EndsSolid (cs : List Char) : Prop :=
  ∀ c ∈ cs.getLast?, isGapChar c = false

theorem EndsSolid.of_append (solid : EndsSolid (s ++ t)) : EndsSolid t := by
  intro c last
  exact solid c (by simp [List.getLast?_append, Option.mem_def.mp last])

theorem EndsSolid.exists_mem (solid : EndsSolid (c :: cs)) : ∃ d ∈ c :: cs, isGapChar d = false :=
  ⟨_, List.getLast_mem (List.cons_ne_nil c cs), solid _ (List.getLast?_eq_some_getLast _)⟩

theorem blocks_append (solid : EndsSolid s) (t : List Char) :
    blocks (s ++ t) = glue (blocks s) (blocks t) := by
  induction s using blocks_induction with
  | nil =>
    obtain ⟨block, more, split⟩ := List.exists_cons_of_ne_nil (blocks_ne_nil t)
    simp [split, glue]
  | gap s rest found ih =>
    cases s with
    | nil => simp [afterGap?] at found
    | cons c s =>
      obtain ⟨many, rfl⟩ := afterGap?_eq_some_iff.mp found
      have farther : afterGap? (c :: s ++ t) = some ((lineBreaks (c :: s)).2 ++ t) := by
        rw [afterGap?_eq_some_iff, lineBreaks_append_of_solid solid.exists_mem]
        exact ⟨many, rfl⟩
      obtain ⟨gap, whole, -⟩ := exists_lineBreaks (c :: s)
      rw [blocks_of_gap farther, blocks_of_gap found, glue_cons (blocks_ne_nil _),
        ih (EndsSolid.of_append (whole ▸ solid))]
  | cons c s none ih =>
    have still : afterGap? (c :: (s ++ t)) = .none := by
      rw [afterGap?_eq_none_iff] at none ⊢
      rwa [← List.cons_append, lineBreaks_append_of_solid solid.exists_mem]
    obtain ⟨block, more, split, grown⟩ := exists_blocks_cons none
    obtain ⟨block', more', split', grown'⟩ := exists_blocks_cons still
    rw [ih (EndsSolid.of_append (s := [c]) solid), split] at split'
    rw [List.cons_append, grown, grown']
    cases more with
    | nil =>
      obtain ⟨next, rest, ends⟩ := List.exists_cons_of_ne_nil (blocks_ne_nil t)
      rw [ends, glue] at split' ⊢
      cases split'
      rfl
    | cons second more =>
      rw [glue_cons (List.cons_ne_nil _ _)] at split' ⊢
      cases split'
      rfl

end Blocks

section BlankLines

def HasBlankLine (cs : List Char) : Prop :=
  ∃ before blanks after, cs = before ++ '\n' :: (blanks ++ '\n' :: after) ∧
    ∀ c ∈ blanks, isLineBlank c = true

theorem HasBlankLine.cons (broken : HasBlankLine cs) (c : Char) : HasBlankLine (c :: cs) := by
  obtain ⟨before, blanks, after, rfl, inside⟩ := broken
  exact ⟨c :: before, blanks, after, rfl, inside⟩

def StartsWithBreak (cs : List Char) : Prop :=
  ∃ blanks rest, cs = blanks ++ '\n' :: rest ∧ ∀ c ∈ blanks, isLineBlank c = true

theorem HasBlankLine.cons_cases (broken : HasBlankLine (c :: cs)) :
    HasBlankLine cs ∨ c = '\n' ∧ StartsWithBreak cs := by
  obtain ⟨before, blanks, after, same, inLine⟩ := broken
  cases before with
  | nil =>
    obtain ⟨rfl, rfl⟩ := List.cons.inj same
    exact .inr ⟨rfl, blanks, after, rfl, inLine⟩
  | cons d before =>
    obtain ⟨rfl, rfl⟩ := List.cons.inj same
    exact .inl ⟨before, blanks, after, rfl, inLine⟩

theorem HasBlankLine.two_le_count (broken : HasBlankLine cs) : 2 ≤ cs.count '\n' := by
  obtain ⟨before, blanks, after, rfl, -⟩ := broken
  simp only [List.count_append, List.count_cons_self]
  omega

theorem not_hasBlankLine_of_few (few : cs.count '\n' < 2) : ¬ HasBlankLine cs := by
  intro broken
  exact absurd broken.two_le_count (Nat.not_le_of_lt few)

theorem hasBlankLine_of_gap (found : afterGap? cs = some rest) : HasBlankLine cs := by
  obtain ⟨many, -⟩ := afterGap?_eq_some_iff.mp found
  rw [lineBreaks_eq] at many
  split at many
  next first here =>
    rw [lineBreaks_eq] at many
    split at many
    next second later =>
      obtain ⟨before, rfl, -⟩ := exists_of_afterLineBreak? here
      obtain ⟨blanks, rfl, inside⟩ := exists_of_afterLineBreak? later
      exact ⟨before, blanks, second, rfl, inside⟩
    next => simp at many
  next => simp at many

theorem blocks_of_unbroken (unbroken : ¬ HasBlankLine cs) : blocks cs = [cs] := by
  induction cs with
  | nil => exact blocks_nil
  | cons c cs ih =>
    have none : afterGap? (c :: cs) = none :=
      Option.eq_none_iff_forall_ne_some.mpr fun rest found => unbroken (hasBlankLine_of_gap found)
    obtain ⟨block, more, split, grown⟩ := exists_blocks_cons none
    rw [ih fun broken => unbroken (broken.cons c)] at split
    cases split
    exact grown

end BlankLines

end QueryBook.Template
