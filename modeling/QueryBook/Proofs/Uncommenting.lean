import QueryBook.Proofs.Cuts
import QueryBook.Proofs.Dividing
import QueryBook.Proofs.Encodings

set_option autoImplicit false

namespace QueryBook

namespace Text

variable {mark cs blanks : List Char}

theorem infix_of_infix_append_blank (blank : ∀ c ∈ blanks, isBlank c = true)
    (nonempty : mark ≠ []) (solid : ∀ c ∈ mark.getLast?, isBlank c = false)
    (within : mark <:+: cs ++ blanks) : mark <:+: cs := by
  obtain ⟨before, after, same⟩ := within
  have ends : ∀ c ∈ (before ++ mark).getLast?, isBlank c = false := by
    rwa [List.getLast?_append_of_ne_nil _ nonempty]
  obtain ⟨left, rfl⟩ := prefix_of_prefix_append_blank blank ends ⟨after, same⟩
  exact ⟨before, left, rfl⟩

theorem span_append_of_stop {inside : Char → Bool} {rest : List Char}
    (stop : ∀ c ∈ rest.head?, inside c = false) (cs : List Char) :
    (cs ++ rest).takeWhile inside = cs.takeWhile inside ∧
      (cs ++ rest).dropWhile inside = cs.dropWhile inside ++ rest := by
  induction cs with
  | nil => cases rest <;> simp_all
  | cons c cs ih => cases here : inside c <;> simp [here, ih]

end Text

namespace Piece

variable {previous : Option Char} {c : Char} {cs rest blanks : List Char} {p : Piece}

def isPlaceholder (p : Piece) : Bool :=
  p.bindName?.isSome || p.directName?.isSome

theorem startsPlain_of_isBlank (blank : Text.isBlank c = true) : startsPlain c = true := by
  by_contra other
  simp only [startsPlain, List.contains_eq_mem, List.mem_cons, List.not_mem_nil, or_false,
    Bool.not_eq_true', decide_eq_false_iff_not, not_not] at other
  rcases other with rfl | rfl | rfl | rfl | rfl | rfl <;> cases blank

section Blanks

theorem isSome_quotedBody?_append_blank {mark : Char} (isMark : mark = '"' ∨ mark = '\'')
    (blank : ∀ c ∈ blanks, Text.isBlank c = true)
    (closed : (quotedBody? mark (cs ++ blanks)).isSome) : (quotedBody? mark cs).isSome := by
  have unclosed {blanks : List Char} (blank : ∀ c ∈ blanks, Text.isBlank c = true) :
      (quotedBody? mark blanks).isSome = false := by
    have unquoting : ∀ c ∈ blanks, IsUnquoting c := by
      intro c member
      refine ⟨?_, ?_, ?_⟩ <;>
      · rintro rfl
        exact absurd (blank _ member) (by decide)
    rw [← List.append_nil blanks, isSome_quotedBody?_append isMark unquoting]
    rfl
  have escaped : (quotedBody? mark ('\\' :: blanks)).isSome →
      (quotedBody? mark ['\\']).isSome := by
    cases blanks with
    | nil => exact id
    | cons c blanks =>
      rw [isSome_quotedBody?_escaped (ne_backslash isMark),
        unclosed (List.forall_mem_cons.mp blank).2]
      exact nofun
  have kept := (isSome_quotedBody?_append_left isMark (a := []) (b := blanks)
    (by simp [unclosed blank]) escaped cs).1 closed
  rwa [List.append_nil] at kept

theorem IsDelimiter.ends {d : List Char} (isDelimiter : IsDelimiter d) :
    d ≠ [] ∧ ∀ c ∈ d.getLast?, Text.isBlank c = false := by
  rcases isDelimiter with rfl | ⟨tag, -, rfl⟩ <;> simp [delimiter, List.getLast?_cons] <;> decide

theorem Opens.of_append_blank (blank : ∀ c ∈ blanks, Text.isBlank c = true) (nonempty : cs ≠ [])
    (opens : Opens (cs ++ blanks)) : Opens cs := by
  generalize same : cs ++ blanks = whole at opens
  have within (opening : List Char) {after : List Char} (split : cs ++ blanks = opening ++ after)
      (solid : ∀ c ∈ opening.getLast?, Text.isBlank c = false) :
      ∃ cs', cs = opening ++ cs' ∧ after = cs' ++ blanks := by
    obtain ⟨cs', rfl⟩ := Text.prefix_of_prefix_append_blank blank solid ⟨after, split.symm⟩
    rw [List.append_assoc, List.append_cancel_left_eq] at split
    exact ⟨cs', rfl, split.symm⟩
  have delimits {d after : List Char} (isDelimiter : IsDelimiter d)
      (closed : d <:+: after ++ blanks) : d <:+: after :=
    Text.infix_of_infix_append_blank blank isDelimiter.ends.1 isDelimiter.ends.2 closed
  cases opens with
  | @quoted mark body isMark closed =>
    have solid : ∀ c ∈ [mark].getLast?, Text.isBlank c = false := by
      rcases isMark with rfl | rfl <;> simp <;> decide
    obtain ⟨cs, rfl, rfl⟩ := within [mark] same solid
    exact .quoted isMark (isSome_quotedBody?_append_blank isMark blank closed)
  | @dollarQuoted tag after isTag closed =>
    have isDelimiter : IsDelimiter (delimiter tag) := .inr ⟨tag, isTag, rfl⟩
    obtain ⟨cs, rfl, rfl⟩ := within (delimiter tag) same isDelimiter.ends.2
    exact .dollarQuoted isTag (delimits isDelimiter closed)
  | lineComment after =>
    obtain ⟨cs, rfl, -⟩ := within ['-', '-'] same (by simp; decide)
    exact .lineComment cs
  | @blockComment after closed =>
    obtain ⟨cs, rfl, rfl⟩ := within ['/', '*'] same (by simp; decide)
    exact .blockComment (delimits (.inl rfl) closed)
  | @cast c isWord after =>
    have solid : Text.isBlank c = false := by
      by_contra other
      simp [Text.not_isWord_of_isBlank (by simpa using other)] at isWord
    obtain ⟨cs, rfl, -⟩ := within [':', ':', c] same (by simpa using solid)
    exact .cast isWord cs

theorem unwordly_of_blank (blank : ∀ c ∈ blanks, Text.isBlank c = true) :
    ∀ c ∈ blanks.head?, Text.isWord c = false :=
  fun c first => Text.not_isWord_of_isBlank (blank c (List.mem_of_head? first))

theorem name?_append_blank (blank : ∀ c ∈ blanks, Text.isBlank c = true) (cs : List Char) :
    name? (cs ++ blanks) = (name? cs).map fun (name, rest) => (name, rest ++ blanks) := by
  cases cs with
  | nil =>
    cases blanks with
    | nil => rfl
    | cons c blanks =>
      have unwordly : Text.isWord c = false := unwordly_of_blank blank c rfl
      have start : Text.isNameStart c = false := by
        by_contra start
        simp [Text.isWord_of_isNameStart (by simpa using start)] at unwordly
      simp [name?, start]
  | cons c cs =>
    obtain ⟨taken, left⟩ := Text.span_append_of_stop (unwordly_of_blank blank) cs
    simp only [List.cons_append, name?, taken, left]
    split <;> rfl

theorem bind?_append_blank (blank : ∀ c ∈ blanks, Text.isBlank c = true) (nonempty : cs ≠ []) :
    bind? previous (cs ++ blanks) =
      (bind? previous cs).map fun (p, rest) => (p, rest ++ blanks) := by
  obtain ⟨c, cs, rfl⟩ := List.exists_cons_of_ne_nil nonempty
  by_cases colon : c = ':'
  · subst colon
    rw [List.cons_append, bind?, bind?, name?_append_blank blank]
    split <;> simp [Function.comp_def]
  · simp [bind?, colon]

theorem direct?_append_blank (blank : ∀ c ∈ blanks, Text.isBlank c = true) (nonempty : cs ≠ []) :
    direct? (cs ++ blanks) = (direct? cs).map fun (p, rest) => (p, rest ++ blanks) := by
  obtain ⟨c, cs, rfl⟩ := List.exists_cons_of_ne_nil nonempty
  by_cases dollar : c = '$'
  · subst dollar
    rw [List.cons_append, direct?, direct?, name?_append_blank blank]
    simp [Function.comp_def]
  · simp [direct?, dollar]

theorem special?_append_blank (blank : ∀ c ∈ blanks, Text.isBlank c = true) (nonempty : cs ≠ [])
    (unended : ∀ body, special? previous cs ≠ some (.lineComment body, [])) :
    special? previous (cs ++ blanks) =
      (special? previous cs).map fun (p, rest) => (p, rest ++ blanks) := by
  cases found : skipped? cs with
  | some read =>
    obtain ⟨p, rest⟩ := read
    obtain ⟨isSkipped, wellFormed, ends⟩ := wellFormed_of_skipped? found
    have special : special? previous cs = some (p, rest) := by simp [special?_eq_skipped?, found]
    have further : p.EndsBefore (rest ++ blanks).head? := by
      cases rest with
      | cons c rest => exact ends
      | nil =>
        cases p with
        | lineComment body => exact absurd special (unended body)
        | cast word => exact unwordly_of_blank blank
        | quoted _ _ | dollarQuoted _ _ | blockComment _ => trivial
        | plain _ | bind _ | direct _ => exact isSkipped.elim
    have later := skipped?_chars isSkipped wellFormed further
    rw [← List.append_assoc, ← eq_of_special? special] at later
    simp [special?_eq_skipped?, found, later]
  | none =>
    have unfound : skipped? (cs ++ blanks) = none := by
      rw [← Option.not_isSome_iff_eq_none, isSome_skipped?_iff]
      intro opens
      have earlier := opens.of_append_blank blank nonempty
      simp [← isSome_skipped?_iff, found] at earlier
    simp only [special?_eq_skipped?, found, unfound, Option.orElse_eq_orElse, Option.orElse_eq_or,
      Option.none_or, Option.map_or, bind?_append_blank blank nonempty,
      direct?_append_blank blank nonempty]

theorem scan_blank (blank : ∀ c ∈ blanks, Text.isBlank c = true) (previous : Option Char) :
    (scan previous blanks).filter isPlaceholder = [] := by
  rw [scan_of_plain fun c member => startsPlain_of_isBlank (blank c member)]
  simp [isPlaceholder, bindName?, directName?]

theorem scan_blank_append (blank : ∀ c ∈ blanks, Text.isBlank c = true)
    (previous : Option Char) (cs : List Char) :
    ∃ last, scan previous (blanks ++ cs) = blanks.map .plain ++ scan last cs := by
  induction blanks generalizing previous with
  | nil => exact ⟨previous, rfl⟩
  | cons c blanks ih =>
    obtain ⟨here, later⟩ := List.forall_mem_cons.mp blank
    obtain ⟨last, same⟩ := ih later (some c)
    refine ⟨last, ?_⟩
    rw [List.cons_append, scan_of_startsPlain (startsPlain_of_isBlank here), same, List.map_cons,
      List.cons_append]

theorem scan_append_blank (blank : ∀ c ∈ blanks, Text.isBlank c = true)
    (previous : Option Char) (cs : List Char) :
    (scan previous (cs ++ blanks)).filter isPlaceholder =
      (scan previous cs).filter isPlaceholder := by
  fun_induction scan previous cs with
  | case1 previous => exact scan_blank blank previous
  | case2 previous c cs p rest found _ ih =>
    by_cases ended : ∃ body, p = .lineComment body ∧ rest = []
    · -- The comment takes blanks in, up to a line break.
      obtain ⟨body, rfl, rfl⟩ := ended
      have whole : c :: cs = '-' :: '-' :: body := by simpa [chars] using eq_of_special? found
      rw [whole, special?_dashes, Option.some.injEq, Prod.mk.injEq] at found
      have further := special?_dashes previous (body ++ blanks)
      rw [List.dropWhile_append_of_pos (List.dropWhile_eq_nil_iff.mp found.2)] at further
      have left : ∀ c ∈ blanks.dropWhile isLineBody, Text.isBlank c = true := fun c member =>
        blank c ((List.dropWhile_suffix isLineBody).subset member)
      rw [whole, List.cons_append, List.cons_append, scan_of_special? further, scan]
      simp [scan_blank left, isPlaceholder, bindName?, directName?]
    · have found' : special? previous (c :: cs ++ blanks) = some (p, rest ++ blanks) := by
        rw [special?_append_blank blank (List.cons_ne_nil c cs), found, Option.map_some]
        intro body same
        rw [found, Option.some.injEq, Prod.mk.injEq] at same
        exact ended ⟨body, same⟩
      rw [scan_of_special? found', List.filter_cons, List.filter_cons, ih]
  | case3 previous c cs unfound ih =>
    have unfound' : special? previous (c :: (cs ++ blanks)) = none := by
      rw [← List.cons_append, special?_append_blank blank (List.cons_ne_nil c cs), unfound]
      · rfl
      · simp [unfound]
    rw [List.cons_append, scan_of_unfound unfound', List.filter_cons, List.filter_cons, ih]

end Blanks

section Fronts

theorem scan_congr {previous other : Option Char} (same : allowsBind previous = allowsBind other)
    (cs : List Char) : scan previous cs = scan other cs := by
  have special (cs : List Char) : special? previous cs = special? other cs := by
    simp only [special?, bind?, same]
  cases cs with
  | nil => rw [scan, scan]
  | cons c cs =>
    cases found : special? previous (c :: cs) with
    | some read =>
      have found' := (special (c :: cs)).symm.trans found
      rw [scan_of_special? found, scan_of_special? found']
    | none =>
      have unfound := (special (c :: cs)).symm.trans found
      rw [scan_of_unfound found, scan_of_unfound unfound]

theorem scan_of_scan_eq_append {front back : List Piece}
    (cut : scan previous cs = front ++ back) :
    scan ((text front).getLast?.or previous) (text back) = back := by
  induction front generalizing previous cs with
  | nil =>
    rw [List.nil_append] at cut
    rw [← cut, text_scan, text_nil, List.getLast?_nil, Option.none_or]
  | cons q front ih =>
    have ends : (text (q :: front)).getLast?.or previous =
        (text front).getLast?.or q.chars.getLast? := by
      obtain ⟨last, same⟩ := Option.isSome_iff_exists.mp (List.getLast?_isSome.mpr q.chars_ne_nil)
      rw [text_cons, List.getLast?_append, same]
      simp
    rw [ends]
    cases cs with
    | nil =>
      rw [scan] at cut
      cases cut
    | cons c cs =>
      cases found : special? previous (c :: cs) with
      | some read =>
        rw [scan_of_special? found, List.cons_append] at cut
        obtain ⟨rfl, later⟩ := List.cons.inj cut
        exact ih later
      | none =>
        rw [scan_of_unfound found, List.cons_append] at cut
        obtain ⟨rfl, later⟩ := List.cons.inj cut
        exact ih later

end Fronts

end Piece

namespace Template

variable {c : Char} {cs rest body : List Char}

def uncommented (block : String) : String :=
  String.ofList (Text.trim (afterComments block.toList))

-- A line comment, without its dashes and its line break, among what stands in front of a block.
def LeadsWith (cs body : List Char) : Prop :=
  ∃ remarks after, (∀ r ∈ remarks, r.WellFormed) ∧
    cs = Remark.text remarks ++ '-' :: '-' :: (body ++ after) ∧
    '\n' ∉ body ∧ ∀ c ∈ after.head?, c = '\n'

theorem LeadsWith.remark {r : Remark} (wellFormed : r.WellFormed) (leads : LeadsWith rest body) :
    LeadsWith (r.chars ++ rest) body := by
  obtain ⟨remarks, after, all, rfl, line, ends⟩ := leads
  exact ⟨r :: remarks, after, List.forall_mem_cons.mpr ⟨wellFormed, all⟩, by simp, line, ends⟩

-- A carriage return in a line comment of the front has only blanks behind it.
def EndsLines (cs : List Char) : Prop :=
  ∀ body, LeadsWith cs body → ∀ front back, body = front ++ '\r' :: back →
    ∀ c ∈ back, Text.isBlank c = true

def returnsEndLines (cs : List Char) : Bool :=
  cs.tails.all fun t => t.head? != some '\r' || (t.takeWhile (· != '\n')).all Text.isBlank

theorem endsLines_of_returnsEndLines (ended : returnsEndLines cs) : EndsLines cs := by
  rintro body ⟨remarks, after, -, rfl, line, -⟩ front back rfl c member
  have tail : '\r' :: (back ++ after) ∈ (Remark.text remarks ++
      '-' :: '-' :: (front ++ '\r' :: back ++ after)).tails := by
    rw [List.mem_tails]
    exact ⟨Remark.text remarks ++ '-' :: '-' :: front, by simp⟩
  have inside : ∀ d ∈ '\r' :: back, (d != '\n') = true := fun d within => by
    simpa using ne_of_mem_of_not_mem (List.mem_append_right front within) line
  have blank := List.all_eq_true.mp ended _ tail
  rw [← List.cons_append, List.takeWhile_append_of_pos inside] at blank
  have all : ('\r' :: back ++ after.takeWhile (· != '\n')).all Text.isBlank = true := by
    simpa using blank
  exact List.all_eq_true.mp all c (List.mem_append_left _ (List.mem_cons_of_mem _ member))

-- A text that is read from a file has no carriage returns.
theorem endsLines_of_decode {encoding : Encoding} {data : List UInt8} {block : List Char}
    (read : encoding.decode data = .ok cs) (member : block ∈ blocks cs) : EndsLines block := by
  have none : '\r' ∉ cs := by
    rw [Encoding.decode] at read
    cases decoded : encoding.chars data with
    | error fault =>
      rw [decoded] at read
      cases read
    | ok raw =>
      rw [decoded] at read
      cases read
      exact Encoding.return_not_mem_unifyLineEnds raw
  rintro body ⟨remarks, after, -, rfl, -, -⟩ front back rfl
  exact absurd (mem_of_mem_blocks member (by simp)) none

theorem EndsLines.of_remark {r : Remark} (wellFormed : r.WellFormed)
    (ends : EndsLines (r.chars ++ rest)) : EndsLines rest :=
  fun body leads => ends body (leads.remark wellFormed)

section Fronts

open Piece

-- The tokenizer stops at a carriage return, and goes on with the blanks behind it.
theorem exists_scan_line (line : '\n' ∉ body)
    (ends : ∀ front back, body = front ++ '\r' :: back → ∀ c ∈ back, Text.isBlank c = true)
    (previous : Option Char) (after : List Char) (stop : ∀ c ∈ after.head?, c = '\n') :
    ∃ front last, scan previous ('-' :: '-' :: (body ++ after)) = front ++ scan last after ∧
      ∀ p ∈ front, isPlaceholder p = false := by
  have stopped : ∀ c ∈ after.head?, isLineBody c = false := fun c first => stop c first ▸ rfl
  obtain ⟨taken, left⟩ := Text.span_append_of_stop stopped body
  have blank : ∀ c ∈ body.dropWhile isLineBody, Text.isBlank c = true := by
    have split := List.takeWhile_append_dropWhile (p := isLineBody) (l := body)
    cases behind : body.dropWhile isLineBody with
    | nil => simp
    | cons c back =>
      have other : isLineBody c = false :=
        @head?_dropWhile_eq_false body isLineBody c (by simp [behind])
      rw [behind] at split
      have unbroken : c ≠ '\n' := by
        rintro rfl
        exact line (split ▸ by simp)
      obtain rfl : c = '\r' := by simpa [isLineBody, unbroken] using other
      exact List.forall_mem_cons.mpr ⟨by decide, ends _ back split.symm⟩
  have found := special?_dashes previous (body ++ after)
  rw [taken, left] at found
  obtain ⟨last, same⟩ := scan_blank_append blank
    (Piece.lineComment (body.takeWhile isLineBody)).chars.getLast? after
  refine ⟨.lineComment (body.takeWhile isLineBody) :: (body.dropWhile isLineBody).map .plain, last,
    ?_, ?_⟩
  · rw [scan_of_special? found, same, List.cons_append]
  · simp [isPlaceholder, bindName?, directName?]

theorem exists_scan_front (ends : EndsLines cs) (previous : Option Char) :
    ∃ front back, scan previous cs = front ++ back ∧ Piece.text back = afterComments cs ∧
      ∀ p ∈ front, isPlaceholder p = false := by
  induction cs using afterComments.induct generalizing previous with
  | case1 => exact ⟨[], [], by rw [scan, List.nil_append], by simp, by simp⟩
  | case2 c cs blank ih =>
    have wellFormed : (Remark.blank c).WellFormed := blank
    obtain ⟨front, back, same, texts, none⟩ := ih (ends.of_remark wellFormed) (some c)
    refine ⟨.plain c :: front, back, ?_, ?_, ?_⟩
    · rw [scan_of_startsPlain (startsPlain_of_isBlank blank), same, List.cons_append]
    · rw [afterComments_blank blank, texts]
    · exact List.forall_mem_cons.mpr ⟨rfl, none⟩
  | case3 c cs solid rest found _ ih =>
    rw [afterComments_comment found]
    rcases remark_of_afterComment? found with ⟨r, wellFormed, whole⟩ | ⟨rfl, body, line, whole⟩
    · rw [whole] at ends ⊢
      have later := ih (ends.of_remark wellFormed)
      cases r with
      | blank d =>
        obtain rfl : c = d := (List.cons.inj whole).1
        exact absurd wellFormed solid
      | line body =>
        have leads : LeadsWith ((Remark.line body).chars ++ rest) body :=
          ⟨[], '\n' :: rest, by simp, by simp [Remark.chars], wellFormed, by simp⟩
        obtain ⟨comment, last, same, none⟩ :=
          exists_scan_line wellFormed (ends body leads) previous ('\n' :: rest) (by simp)
        obtain ⟨front, back, same', texts, none'⟩ := later (some '\n')
        refine ⟨comment ++ .plain '\n' :: front, back, ?_, texts, ?_⟩
        · have whole : (Remark.line body).chars ++ rest = '-' :: '-' :: (body ++ '\n' :: rest) := by
            simp [Remark.chars]
          rw [whole, same, scan_of_startsPlain (by decide), same', List.append_assoc,
            List.cons_append]
        · exact List.forall_mem_append.mpr ⟨none, List.forall_mem_cons.mpr ⟨rfl, none'⟩⟩
      | block body =>
        have special : special? previous ((Remark.block body).chars ++ rest) =
          some (.blockComment body, rest) := special?_blockComment wellFormed
        obtain ⟨front, back, same, texts, none⟩ := later (Piece.blockComment body).chars.getLast?
        refine ⟨.blockComment body :: front, back, ?_, texts, List.forall_mem_cons.mpr ⟨rfl, none⟩⟩
        rw [scan_of_special? special, same, List.cons_append]
    · have leads : LeadsWith ('-' :: '-' :: body) body :=
        ⟨[], [], by simp, by simp, line, by simp⟩
      rw [whole] at ends ⊢
      obtain ⟨front, last, same, none⟩ :=
        exists_scan_line line (ends body leads) previous [] (by simp)
      rw [List.append_nil, scan, List.append_nil] at same
      exact ⟨front, [], by rw [same, List.append_nil], by simp, none⟩
  | case4 c cs solid unfound =>
    refine ⟨[], scan previous (c :: cs), rfl, ?_, by simp⟩
    rw [text_scan, afterComments_of_none (by simpa using solid) unfound]

end Fronts

end Template

namespace Piece

theorem filterMap_filter_isPlaceholder (pieces : List Piece) :
    (pieces.filter isPlaceholder).filterMap bindName? = pieces.filterMap bindName? ∧
      (pieces.filter isPlaceholder).filterMap directName? = pieces.filterMap directName? := by
  induction pieces with
  | nil => simp
  | cons p pieces ih =>
    cases p <;> simpa [isPlaceholder, bindName?, directName?, List.filterMap_cons] using ih

end Piece

namespace Template

open Piece

theorem allowsBind_remarks {remarks : List Remark} (wellFormed : ∀ r ∈ remarks, r.WellFormed) :
    allowsBind (Remark.text remarks).getLast? = true := by
  rcases List.eq_nil_or_concat' remarks with rfl | ⟨front, r, rfl⟩
  · rfl
  · have here := wellFormed r (by simp)
    have whole : Remark.text (front ++ [r]) = Remark.text front ++ r.chars := by
      simp [Remark.text]
    rw [whole, List.getLast?_append]
    cases r with
    | blank c =>
      have blank : Text.isBlank c = true := here
      have other : c ≠ ':' := by
        rintro rfl
        cases blank
      simp [Remark.chars, allowsBind, Text.not_isWord_of_isBlank blank, other]
    | line body =>
      simp [Remark.chars, List.getLast?_cons]
      decide
    | block body =>
      simp [Remark.chars, List.getLast?_cons]
      decide

theorem placeholders_uncommented {b : String} {front back : List Piece}
    (cut : Piece.ofText b = front ++ back) (ends : Piece.text back = afterComments b.toList) :
    (Piece.ofText (uncommented b)).filter isPlaceholder = back.filter isPlaceholder := by
  obtain ⟨solid, -⟩ := afterComments_start b.toList
  obtain ⟨blanks, split, blank⟩ := Text.exists_trimEnd (afterComments b.toList)
  have trimmed := scan_append_blank blank none (Text.trimEnd (afterComments b.toList))
  rw [← split] at trimmed
  rw [Piece.ofText, uncommented, String.toList_ofList, Text.trim, Text.trimStart_of_solid solid,
    ← trimmed, ← ends]
  obtain ⟨comments, whole, remarks, wellFormed, same⟩ := exists_isComments b.toList
  have written : comments = Piece.text front := by
    have texts := Piece.text_ofText b
    rw [cut, Piece.text, List.flatMap_append, ← Piece.text, ← Piece.text, ends] at texts
    exact List.append_cancel_right (whole.symm.trans texts.symm)
  rcases same with same | ⟨nothing, -⟩
  · have allowed := allowsBind_remarks wellFormed
    rw [← same, written] at allowed
    have behind := scan_of_scan_eq_append cut
    rw [Option.or_none] at behind
    have opening : allowsBind none = allowsBind (Piece.text front).getLast? := allowed.symm
    rw [scan_congr opening, behind]
  · rw [nothing] at ends
    cases back with
    | nil => rw [Piece.text_nil, scan]
    | cons p back =>
      rw [Piece.text_cons] at ends
      exact absurd (List.append_eq_nil_iff.mp ends).1 p.chars_ne_nil

end Template

namespace MarkedText

open Piece Template

theorem names_of_placeholders (style : MarkerStyle) {sql : String} {pieces : List Piece}
    (same : (Piece.ofText sql).filter isPlaceholder = pieces.filter isPlaceholder) :
    (ofText style sql).bindNames = pieces.filterMap bindName? ∧
      (ofText style sql).directNames = pieces.filterMap directName? := by
  obtain ⟨binds, directs⟩ := filterMap_filter_isPlaceholder pieces
  obtain ⟨binds', directs'⟩ := filterMap_filter_isPlaceholder (Piece.ofText sql)
  obtain ⟨bindNames, directNames⟩ := names_ofText style sql
  rw [bindNames, directNames, ← binds', ← directs', same, binds, directs]
  exact ⟨rfl, rfl⟩

/-- Without its front a block has lost the placeholders of the front and no others, as long as no
piece reaches out of the front. None does, and the front has no placeholders, unless a line comment
goes on behind a carriage return. -/
theorem names_uncommented (style : MarkerStyle) (b : String) :
    let whole := ofText style b
    let bare := ofText style (uncommented b)
    (∀ front back, Piece.ofText b = front ++ back → Piece.text back = afterComments b.toList →
      whole.bindNames = front.filterMap bindName? ++ bare.bindNames ∧
      whole.directNames = front.filterMap directName? ++ bare.directNames) ∧
    (EndsLines b.toList →
      whole.bindNames = bare.bindNames ∧ whole.directNames = bare.directNames) := by
  intro whole bare
  have lost (front back : List Piece) (cut : Piece.ofText b = front ++ back)
      (ends : Piece.text back = afterComments b.toList) :
      whole.bindNames = front.filterMap bindName? ++ bare.bindNames ∧
        whole.directNames = front.filterMap directName? ++ bare.directNames := by
    obtain ⟨binds, directs⟩ := names_of_placeholders style (placeholders_uncommented cut ends)
    obtain ⟨binds', directs'⟩ := names_of_placeholders style (congrArg _ cut)
    rw [binds, directs, ← List.filterMap_append, ← List.filterMap_append]
    exact ⟨binds', directs'⟩
  refine ⟨lost, fun endsLines => ?_⟩
  obtain ⟨front, back, cut, ends, none⟩ := exists_scan_front endsLines none
  obtain ⟨binds, directs⟩ := lost front back cut ends
  obtain ⟨binds', directs'⟩ := filterMap_filter_isPlaceholder front
  have nothing : front.filter isPlaceholder = [] := by simpa using none
  rw [nothing] at binds' directs'
  rw [← binds'] at binds
  rw [← directs'] at directs
  exact ⟨binds, directs⟩

def returned : String :=
  "-- note\rDELETE FROM t WHERE a = :a"

theorem afterComments_returned : afterComments returned.toList = [] := by
  have found : afterComment? returned.toList = some [] := by decide
  rw [afterComments_comment found, afterComments_nil]

theorem ofText_returned : Piece.ofText returned =
    .lineComment " note".toList :: .plain '\r' ::
      ("DELETE FROM t WHERE a = ".toList.map .plain ++ [.bind ['a']]) :=
  Piece.ofText_of_isFound (by decide) (by decide)

theorem bindNames_uncommented_returned :
    (ofText .question (uncommented returned)).bindNames = [] := by
  have nothing : uncommented returned = "" := by
    rw [uncommented, afterComments_returned]
    rfl
  rw [nothing]
  exact bindNames_of_plain (by decide)

theorem names_uncommented_marks :
    let b := "-- 'it :n\r \n/* -- :m */ SET x = :a "
    (EndsLines b.toList ∧ (ofText .question b).bindNames = ["a"]) ∧
    Piece.text [] = afterComments returned.toList ∧
      (ofText .question returned).bindNames = ["a"] := by
  intro b
  have written : b.toList =
      Remark.text [.line " 'it :n\r ".toList, .block " -- :m ".toList, .blank ' '] ++
        "SET x = :a ".toList := by decide
  have start : ∀ c ∈ "SET x = :a ".toList.head?, ¬ Text.isBlank c ∧ c ≠ '-' ∧ c ≠ '/' := by
    rintro c ⟨⟩
    decide
  have bare : uncommented b = "SET x = :a" := by
    rw [uncommented, written, afterComments_remarks (by decide), afterComments_of_start start]
    decide
  have pieces : Piece.ofText "SET x = :a" = "SET x = ".toList.map .plain ++ [.bind ['a']] :=
    Piece.ofText_of_isFound (by decide) (by decide)
  have endsLines : EndsLines b.toList := endsLines_of_returnsEndLines (by decide)
  have gone := afterComments_returned.symm
  refine ⟨⟨endsLines, ?_⟩, gone, ?_⟩
  · rw [((names_uncommented .question b).2 endsLines).1, bare, (names_ofText _ _).1, pieces]
    rfl
  · have cut := (names_uncommented .question returned).1 (Piece.ofText returned) [] (by simp) gone
    rw [cut.1, bindNames_uncommented_returned, ofText_returned]
    rfl

/-- The tokenizer reads on behind the carriage return, and the block has lost its placeholder. -/
theorem exists_placeholder_lost :
    (ofText .question returned).bindNames = ["a"] ∧
      (ofText .question (uncommented returned)).bindNames = [] ∧ statements returned = [] := by
  refine ⟨?_, bindNames_uncommented_returned, ?_⟩
  · rw [(names_ofText _ _).1, ofText_returned]
    rfl
  · have line : blocks returned.toList = [returned.toList] :=
      blocks_of_unbroken (not_hasBlankLine_of_few (by decide))
    have empty : blockText returned.toList = [] := by
      rw [blockText, afterComments_returned]
      rfl
    rw [statements, line]
    simp [empty]

end MarkedText

end QueryBook
