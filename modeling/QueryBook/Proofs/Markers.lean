import QueryBook.Proofs.Cuts

set_option autoImplicit false

namespace QueryBook

namespace MarkerStyle

def sign : MarkerStyle → Char
  | .question => '?'
  | .dollar => '$'
  | .colon => ':'
  | .percent => '%'

theorem sign_eq_dollar {style : MarkerStyle} : style.sign = '$' ↔ style = .dollar := by
  cases style <;> simp [sign]

theorem sign_eq_colon {style : MarkerStyle} : style.sign = ':' ↔ style = .colon := by
  cases style <;> simp [sign]

theorem isDigit_sign (style : MarkerStyle) : style.sign.isDigit = false := by
  cases style <;> rfl

theorem toList_marker {style : MarkerStyle} (percent : style ≠ .percent) (position : Nat) :
    ∃ digits, (style.marker position).toList = style.sign :: digits ∧
      (∀ c ∈ digits, c.isDigit) ∧ (digits = [] ↔ style = .question) := by
  have isDigit : ∀ c ∈ Nat.toDigits 10 position, c.isDigit :=
    fun c member => Nat.isDigit_of_mem_toDigits (by decide) (by decide) member
  have numbered : (position : Int).repr.toList = Nat.toDigits 10 position := Nat.toList_repr
  cases style with
  | question => exact ⟨[], by simp [marker, sign], by simp, by simp⟩
  | dollar => exact ⟨_, by simp [marker, sign, numbered], isDigit, by simp [Nat.toDigits_ne_nil]⟩
  | colon => exact ⟨_, by simp [marker, sign, numbered], isDigit, by simp [Nat.toDigits_ne_nil]⟩
  | percent => exact absurd rfl percent

end MarkerStyle

def markerAt? (style : MarkerStyle) : List Char → Option (List Char)
  | [] => none
  | c :: cs =>
    let digits := cs.takeWhile Char.isDigit
    match style with
    | .question => if c = '?' then some [c] else none
    | .dollar | .colon => if c = style.sign ∧ digits ≠ [] then some (c :: digits) else none
    | .percent => none

-- The markers that stand outside of quoted texts, comments and casts; `inside` is how many
-- characters of one of these are still to come.
def markersFrom (style : MarkerStyle) : Nat → List Char → List (List Char)
  | _, [] => []
  | inside + 1, _ :: cs => markersFrom style inside cs
  | 0, c :: cs =>
    match Piece.skipped? (c :: cs) with
    | some (p, _) => markersFrom style (p.chars.length - 1) cs
    | none => (markerAt? style (c :: cs)).toList ++ markersFrom style 0 cs

def readMarkers (style : MarkerStyle) (cs : List Char) : List (List Char) :=
  markersFrom style 0 cs

section Reading

variable {style : MarkerStyle} {c : Char} {cs rest : List Char} {p : Piece}

@[simp] theorem readMarkers_nil : readMarkers style [] = [] := rfl

theorem markersFrom_append (passed cs : List Char) :
    markersFrom style passed.length (passed ++ cs) = readMarkers style cs := by
  induction passed with
  | nil => rfl
  | cons c passed ih => exact ih

theorem readMarkers_of_skipped (found : Piece.skipped? cs = some (p, rest)) :
    readMarkers style cs = readMarkers style rest := by
  have special : Piece.special? none cs = some (p, rest) := by
    simp [Piece.special?_eq_skipped?, found]
  obtain rfl := Piece.eq_of_special? special
  obtain ⟨c, passed, same⟩ := List.exists_cons_of_ne_nil p.chars_ne_nil
  rw [same] at found ⊢
  rw [List.cons_append] at found ⊢
  simp [readMarkers, markersFrom, found, same, markersFrom_append]

theorem readMarkers_of_unskipped (unfound : Piece.skipped? (c :: cs) = none) :
    readMarkers style (c :: cs) = (markerAt? style (c :: cs)).toList ++ readMarkers style cs := by
  simp [readMarkers, markersFrom, unfound]

theorem startsPlain_of_isDigit (isDigit : c.isDigit) : Piece.startsPlain c := by
  by_contra other
  simp only [Piece.startsPlain, List.contains_eq_mem, List.mem_cons, List.not_mem_nil, or_false,
    Bool.not_eq_true', decide_eq_false_iff_not, not_not] at other
  rcases other with rfl | rfl | rfl | rfl | rfl | rfl <;> simp at isDigit

theorem isWord_of_isDigit (isDigit : c.isDigit) : Text.isWord c := by
  have upTo := of_decide_eq_true (Bool.and_eq_true_iff.mp isDigit).2
  have small : c.toNat < 128 := Nat.lt_of_le_of_lt (UInt32.le_iff_toNat_le.mp upTo) (by decide)
  simp [Text.isWord, small, Char.isAlphanum, isDigit]

theorem markerAt?_of_isDigit (isDigit : c.isDigit) : markerAt? style (c :: cs) = none := by
  have other (style : MarkerStyle) : c ≠ style.sign := by
    rintro rfl
    simp [style.isDigit_sign] at isDigit
  cases style with
  | question => exact if_neg (other .question)
  | dollar | colon => simp [markerAt?, other]
  | percent => rfl

theorem readMarkers_digits {digits : List Char} (isDigit : ∀ c ∈ digits, c.isDigit)
    (cs : List Char) : readMarkers style (digits ++ cs) = readMarkers style cs := by
  induction digits with
  | nil => rfl
  | cons c digits ih =>
    obtain ⟨first, isDigit⟩ := List.forall_mem_cons.mp isDigit
    have unfound : Piece.special? none (c :: (digits ++ cs)) = none :=
      Piece.special?_of_startsPlain (startsPlain_of_isDigit first)
    rw [List.cons_append, readMarkers_of_unskipped (Piece.skipped?_eq_none unfound),
      markerAt?_of_isDigit first, ih isDigit]
    rfl

end Reading

section Written

variable {style : MarkerStyle} {digits cs : List Char}

-- What may stand behind a marker: it goes on with no digit and makes no delimiter of the marker.
def Stops (style : MarkerStyle) (cs : List Char) : Prop :=
  ∀ c ∈ cs.head?, Text.isWord c = false ∧ (style = .dollar → c ≠ '$')

theorem not_delimiter_sign (isDigit : ∀ c ∈ digits, c.isDigit) (ends : Stops style cs)
    {tag : List Char} (isTag : ∀ c ∈ tag, Text.isWord c) :
    ¬ Piece.delimiter tag <+: style.sign :: (digits ++ cs) := by
  rintro ⟨after, same⟩
  obtain ⟨dollar, same⟩ : style = .dollar ∧ tag ++ '$' :: after = digits ++ cs := by
    simpa [Piece.delimiter, eq_comm (a := '$'), MarkerStyle.sign_eq_dollar] using same
  have stop : ∀ c ∈ ('$' :: after).head?, Text.isWord c = false := by
    simp only [List.head?_cons, Option.mem_some_iff, forall_eq']
    decide
  have later := congrArg (List.dropWhile Text.isWord) same
  rw [Text.dropWhile_append_of_stop isTag stop, Text.dropWhile_append_of_stop
    (fun c member => isWord_of_isDigit (isDigit c member)) fun c first => (ends c first).1] at later
  exact (ends '$' (by simp [← later])).2 dollar rfl

theorem infix_of_digits (isDigit : ∀ c ∈ digits, c.isDigit) {d : List Char}
    (isDelimiter : Piece.IsDelimiter d) (within : d <:+: digits ++ cs) : d <:+: cs := by
  induction digits with
  | nil => exact within
  | cons c digits ih =>
    obtain ⟨first, isDigit⟩ := List.forall_mem_cons.mp isDigit
    rcases List.infix_cons_iff.mp within with starts | later
    · rcases isDelimiter with rfl | ⟨tag, -, rfl⟩
      · obtain ⟨rfl, -⟩ := List.cons_prefix_cons.mp starts
        simp at first
      · obtain ⟨rfl, -⟩ := List.cons_prefix_cons.mp starts
        simp at first
    · exact ih isDigit later

theorem infix_of_marker (percent : style ≠ .percent) (position : Nat) (ends : Stops style cs)
    {d : List Char} (isDelimiter : Piece.IsDelimiter d)
    (within : d <:+: (style.marker position).toList ++ cs) : d <:+: cs := by
  obtain ⟨digits, written, isDigit, -⟩ := style.toList_marker percent position
  rw [written, List.cons_append] at within
  rcases List.infix_cons_iff.mp within with starts | later
  · rcases isDelimiter with rfl | ⟨tag, isTag, rfl⟩
    · have slash := (List.cons_prefix_cons.mp starts).1
      cases style <;> simp [MarkerStyle.sign] at slash
    · exact (not_delimiter_sign isDigit ends isTag starts).elim
  · exact infix_of_digits isDigit isDelimiter later

theorem skipped?_marker (percent : style ≠ .percent) (position : Nat) (ends : Stops style cs) :
    Piece.skipped? ((style.marker position).toList ++ cs) = none := by
  obtain ⟨digits, written, isDigit, numbered⟩ := style.toList_marker percent position
  rw [written, List.cons_append]
  by_contra found
  rw [← Ne, ← Option.isSome_iff_ne_none, Piece.isSome_skipped?_iff] at found
  generalize same : style.sign :: (digits ++ cs) = text at found
  cases found with
  | quoted isMark =>
    obtain ⟨rfl, -⟩ := List.cons.inj same
    cases style <;> simp [MarkerStyle.sign] at isMark
  | @dollarQuoted tag after isTag =>
    exact not_delimiter_sign isDigit ends isTag ⟨after, same.symm⟩
  | lineComment after =>
    have dash := (List.cons.inj same).1
    cases style <;> simp [MarkerStyle.sign] at dash
  | blockComment =>
    have slash := (List.cons.inj same).1
    cases style <;> simp [MarkerStyle.sign] at slash
  | cast isWord after =>
    obtain ⟨colon, same⟩ := List.cons.inj same
    rw [MarkerStyle.sign_eq_colon] at colon
    have nonempty : digits ≠ [] := by simp [numbered, colon]
    obtain ⟨c, digits, rfl⟩ := List.exists_cons_of_ne_nil nonempty
    obtain ⟨rfl, -⟩ := List.cons.inj same
    simp at isDigit

theorem markerAt?_marker (percent : style ≠ .percent) (position : Nat) (ends : Stops style cs) :
    markerAt? style ((style.marker position).toList ++ cs) =
      some (style.marker position).toList := by
  obtain ⟨digits, written, isDigit, numbered⟩ := style.toList_marker percent position
  have stop : ∀ c ∈ cs.head?, c.isDigit = false := by
    intro c first
    by_contra isDigit
    have isWord := isWord_of_isDigit (eq_true_of_ne_false isDigit)
    simp [(ends c first).1] at isWord
  rw [written, List.cons_append]
  cases style with
  | question => simp [markerAt?, MarkerStyle.sign, numbered.mpr rfl]
  | dollar =>
    simp [markerAt?, MarkerStyle.sign, numbered,
      Text.takeWhile_append_of_stop isDigit stop]
  | colon =>
    simp [markerAt?, MarkerStyle.sign, numbered,
      Text.takeWhile_append_of_stop isDigit stop]
  | percent => exact absurd rfl percent

theorem readMarkers_marker (percent : style ≠ .percent) (position : Nat) (ends : Stops style cs) :
    readMarkers style ((style.marker position).toList ++ cs) =
      (style.marker position).toList :: readMarkers style cs := by
  have unskipped := skipped?_marker percent position ends
  have found := markerAt?_marker percent position ends
  obtain ⟨digits, written, isDigit, -⟩ := style.toList_marker percent position
  rw [written, List.cons_append] at unskipped found
  rw [written, List.cons_append, readMarkers_of_unskipped unskipped, found,
    readMarkers_digits isDigit]
  rfl

-- In front of a marker, nothing may start that the bind in its place did not let start.
theorem parts_sign (percent : style ≠ .percent) {c : Char} (allowed : Piece.allowsBind (some c))
    (unjoined : style = .dollar → c ≠ '$') : Piece.Parts c style.sign := by
  obtain ⟨noWord, noColon⟩ : Text.isWord c = false ∧ c ≠ ':' := by
    simpa [Piece.allowsBind] using allowed
  refine ⟨noWord, noColon, ?_⟩
  cases style with
  | question => exact .inl rfl
  | dollar => exact .inr (.inr ⟨rfl, unjoined rfl⟩)
  | colon => exact .inr (.inl rfl)
  | percent => exact absurd rfl percent

theorem Piece.Covers.marker {a b name : List Char} (covers : Piece.Covers a b)
    (percent : style ≠ .percent) (position : Nat) (named : Piece.isName name)
    (stops : Stops style b) :
    Piece.Covers ((':' :: name) ++ a) ((style.marker position).toList ++ b) := by
  obtain ⟨digits, written, isDigit, -⟩ := style.toList_marker percent position
  apply covers.replace (by simp) (by simp [written])
  · refine List.forall_mem_cons.mpr ⟨by decide, fun c member => ?_⟩
    exact Piece.isUnquoting_of_isWord (Piece.isWord_of_isName named c member)
  · rw [written]
    refine List.forall_mem_cons.mpr ⟨by cases style <;> decide, fun c member => ?_⟩
    exact Piece.isUnquoting_of_isWord (isWord_of_isDigit (isDigit c member))
  · exact fun d => infix_of_marker percent position stops

end Written

theorem Piece.exists_isWord_getLast? {name : List Char} (named : isName name) :
    ∃ w, (':' :: name).getLast? = some w ∧ Text.isWord w := by
  obtain ⟨word, w, rfl⟩ := (List.eq_nil_or_concat' name).resolve_left (ne_nil_of_isName named)
  exact ⟨w, by simp [List.getLast?_cons], isWord_of_isName named w (by simp)⟩

theorem markerAt?_append {style : MarkerStyle} {back : List Char}
    (stop : ∀ c ∈ back.head?, c.isDigit = false) (c : Char) (cs : List Char) :
    markerAt? style (c :: (cs ++ back)) = markerAt? style (c :: cs) := by
  have same : (cs ++ back).takeWhile Char.isDigit = cs.takeWhile Char.isDigit := by
    induction cs with
    | nil => cases back <;> simp_all
    | cons d cs ih => simp [List.takeWhile_cons, ih]
  cases style <;> simp [markerAt?, same]

theorem Piece.endsBefore_sign {p : Piece} (isSkipped : p.IsSkipped)
    (ends : p.EndsBefore (some ':')) (style : MarkerStyle) : p.EndsBefore (some style.sign) := by
  cases p with
  | lineComment body => exact absurd (ends ':' rfl) (by decide)
  | cast word =>
    intro c same
    obtain rfl := Option.mem_some_iff.mp same
    cases style <;> decide
  | plain _ | bind _ | direct _ => exact isSkipped.elim
  | _ => trivial

namespace Cut

-- No text that stands next to a placeholder has the sign there.
def Unjoined (sign : Char) : List Char → List (Placeholder × List Char) → Prop
  | _, [] => True
  | front, (_, between) :: rest =>
    front.getLast? ≠ some sign ∧ between.head? ≠ some sign ∧ Unjoined sign between rest

theorem getLast?_append_toList {cs : List Char} (nonempty : cs ≠ []) (previous : Option Char)
    (first : List Char) :
    (previous.toList ++ (cs ++ first)).getLast? = (cs.getLast?.toList ++ first).getLast? := by
  obtain ⟨cs, c, rfl⟩ := (List.eq_nil_or_concat' cs).resolve_left nonempty
  simp [List.getLast?_append, List.getLast?_cons]

section Unjoined

variable {sign : Char} {front : List Char} {rest : List (Placeholder × List Char)}

theorem Unjoined.of_getLast? {front' : List Char} (unjoined : Unjoined sign front rest)
    (last : ∀ c ∈ front'.getLast?, c = sign → c ∈ front.getLast?) :
    Unjoined sign front' rest := by
  cases rest with
  | nil => trivial
  | cons head rest =>
    obtain ⟨before, behind⟩ := unjoined
    exact ⟨fun same => before (last sign same rfl), behind⟩

theorem Unjoined.of_prepend {cs : List Char} (nonempty : cs ≠ []) {previous : Option Char}
    (unjoined : Unjoined sign (previous.toList ++ (cs ++ front)) rest) :
    Unjoined sign (cs.getLast?.toList ++ front) rest := by
  apply unjoined.of_getLast?
  intro c last _
  rwa [getLast?_append_toList nonempty]

theorem Unjoined.of_named (other : Text.isWord sign = false) {name : List Char}
    (named : Piece.isName name) (unjoined : Unjoined sign front rest) :
    Unjoined sign ((':' :: name).getLast?.toList ++ front) rest := by
  apply unjoined.of_getLast?
  obtain ⟨w, same, isWord⟩ := Piece.exists_isWord_getLast? named
  rintro c last rfl
  rw [same, List.getLast?_append, Option.mem_def, Option.or_eq_some_iff] at last
  rcases last with last | ⟨-, last⟩
  · exact last
  · obtain rfl : w = c := by simpa using last
    simp [other] at isWord

end Unjoined

def texts (cut : Cut) : List (List Char) :=
  cut.first :: cut.rest.map (·.2)

def behind (cut : Cut) (style : MarkerStyle) (position : Nat) : List Char :=
  fillAfter id cut.rest (style.markers position cut.bindNames.length) []

def readZipped (style : MarkerStyle) (rest : List (Placeholder × List Char))
    (markers : List (List Char)) : List (List Char) :=
  (rest.zip markers).flatMap fun ((_, between), marker) => marker :: readMarkers style between

theorem readZipped_cons (style : MarkerStyle) (placed : Placeholder × List Char)
    (rest : List (Placeholder × List Char)) (marker : List Char) (markers : List (List Char)) :
    readZipped style (placed :: rest) (marker :: markers) =
      marker :: (readMarkers style placed.2 ++ readZipped style rest markers) := by
  simp [readZipped]

def readBehind (cut : Cut) (style : MarkerStyle) (position : Nat) : List (List Char) :=
  readZipped style cut.rest (style.markers position cut.bindNames.length)

section After

variable (cut : Cut) (style : MarkerStyle) (position : Nat) (cs : List Char) (name : String)

theorem first_prepend : (cut.prepend cs).first = cs ++ cut.first := rfl

@[simp] theorem behind_prepend : (cut.prepend cs).behind style position =
    cut.behind style position := rfl

@[simp] theorem readBehind_prepend : (cut.prepend cs).readBehind style position =
    cut.readBehind style position := rfl

theorem behind_after_bind : (cut.after (.bind name)).behind style position =
    (style.marker position).toList ++ (cut.first ++ cut.behind style (position + 1)) := by
  simp [behind, after, fillAfter, bindNames, Placeholder.bindName?, style.markers_succ]

theorem readBehind_after_bind : (cut.after (.bind name)).readBehind style position =
    (style.marker position).toList ::
      (readMarkers style cut.first ++ cut.readBehind style (position + 1)) := by
  simp [readBehind, after, bindNames, Placeholder.bindName?, style.markers_succ, readZipped_cons]

end After

-- The markers of a text that follows the character `previous` are read where they were written, and
-- nothing in front of them is taken for a quoted text, a comment or a cast that was none.
structure Reads (style : MarkerStyle) (previous : Option Char) (position : Nat) (cut : Cut) :
    Prop where
  covers : Piece.Covers (text ⟨[], cut.rest⟩) (cut.behind style position)
  apart : Piece.Apart (previous.toList ++ cut.first) (cut.behind style position)
  starts : cut.behind style position = [] ∨ (text ⟨[], cut.rest⟩).head? = some ':' ∧
    (cut.behind style position).head? = some style.sign
  reads : readMarkers style (cut.first ++ cut.behind style position) =
    readMarkers style cut.first ++ cut.readBehind style position

namespace Reads

variable {style : MarkerStyle} {previous : Option Char} {position : Nat} {cut : Cut}

theorem nil : Reads style previous position ⟨[], []⟩ where
  covers := .nil _
  apart _ _ d first := by simp [behind, fillAfter] at first
  starts := .inl rfl
  reads := rfl

theorem apart_prepend {cs : List Char} (nonempty : cs ≠ [])
    (reads : Reads style cs.getLast? position cut) :
    Piece.Apart (previous.toList ++ (cut.prepend cs).first)
      ((cut.prepend cs).behind style position) := by
  intro d last
  apply reads.apart d
  rwa [← getLast?_append_toList nonempty previous cut.first]

theorem head?_first {c : Char} (first : c ∈ cut.first.head?) : c ∈ cut.text.head? := by
  simp [text, List.head?_append, Option.mem_def.mp first]

theorem head?_append (reads : Reads style previous position cut) {c : Char}
    (first : c ∈ (cut.first ++ cut.behind style position).head?) :
    c ∈ cut.text.head? ∨ c = style.sign ∧ cut.text.head? = some ':' := by
  rw [List.head?_append, Option.mem_def, Option.or_eq_some_iff] at first
  rcases first with first | ⟨empty, first⟩
  · exact .inl (head?_first first)
  · rw [List.head?_eq_none_iff] at empty
    rcases reads.starts with nothing | ⟨colon, sign⟩
    · simp [nothing] at first
    · rw [first, Option.some.injEq] at sign
      exact .inr ⟨sign, by simpa [text, empty] using colon⟩

theorem endsBefore {p : Piece} (isSkipped : p.IsSkipped) (ends : p.EndsBefore cut.text.head?)
    (reads : Reads style previous position cut) :
    p.EndsBefore (cut.first ++ cut.behind style position).head? := by
  rw [Piece.endsBefore_iff] at ends ⊢
  intro c first
  rcases reads.head?_append first with first | ⟨rfl, colon⟩
  · exact ends c first
  · exact Piece.endsBefore_sign isSkipped (ends ':' colon) style

theorem endsBefore_first {p : Piece} (ends : p.EndsBefore cut.text.head?) :
    p.EndsBefore cut.first.head? := by
  rw [Piece.endsBefore_iff] at ends ⊢
  exact fun c first => ends c (head?_first first)

theorem skipped {p : Piece} (isSkipped : p.IsSkipped) (wellFormed : p.WellFormed)
    (ends : p.EndsBefore cut.text.head?) (reads : Reads style p.chars.getLast? position cut) :
    Reads style previous position (cut.prepend p.chars) where
  covers := reads.covers
  apart := apart_prepend p.chars_ne_nil reads
  starts := reads.starts
  reads := by
    have whole := Piece.skipped?_chars isSkipped wellFormed (endsBefore isSkipped ends reads)
    have alone := Piece.skipped?_chars isSkipped wellFormed (endsBefore_first ends)
    rw [behind_prepend, readBehind_prepend, first_prepend, List.append_assoc,
      readMarkers_of_skipped whole, readMarkers_of_skipped alone]
    exact reads.reads

theorem markerAt?_first (reads : Reads style previous position cut) (c : Char) :
    markerAt? style (c :: (cut.first ++ cut.behind style position)) =
      markerAt? style (c :: cut.first) := by
  apply markerAt?_append
  intro d first
  rcases reads.starts with nothing | ⟨-, sign⟩
  · simp [nothing] at first
  · rw [Option.mem_def.mp first, Option.some.injEq] at sign
    rw [sign, style.isDigit_sign]

theorem plain {c : Char} (unfound : Piece.skipped? (c :: cut.text) = none)
    (reads : Reads style (some c) position cut) :
    Reads style previous position (cut.prepend [c]) where
  covers := reads.covers
  apart := apart_prepend (by simp) reads
  starts := reads.starts
  reads := by
    have nonempty : c :: cut.first ≠ [] := by simp
    have parts : cut.text = cut.first ++ text ⟨[], cut.rest⟩ := by simp [text]
    rw [parts, ← List.cons_append] at unfound
    have whole : Piece.skipped? (c :: (cut.first ++ cut.behind style position)) = none :=
      Piece.skipped?_append_of_covers reads.covers reads.apart nonempty unfound
    have alone := Piece.skipped?_append_of_covers (.nil _) (fun _ _ _ first => by cases first)
      nonempty unfound
    rw [List.append_nil] at alone
    rw [behind_prepend, readBehind_prepend, first_prepend, List.singleton_append, List.cons_append,
      readMarkers_of_unskipped whole, readMarkers_of_unskipped alone, reads.markerAt?_first,
      reads.reads, List.append_assoc]

theorem stops_behind {name : List Char} (named : Piece.isName name)
    (stop : ∀ c ∈ cut.text.head?, Text.isWord c = false)
    (unjoined : style = .dollar → cut.first.head? ≠ some '$')
    (reads : Reads style (':' :: name).getLast? position cut) :
    Stops style (cut.first ++ cut.behind style position) := by
  obtain ⟨w, same, isWord⟩ := Piece.exists_isWord_getLast? named
  intro d first
  rw [List.head?_append, Option.mem_def, Option.or_eq_some_iff] at first
  rcases first with first | ⟨empty, first⟩
  · refine ⟨stop d (head?_first first), ?_⟩
    rintro dollar rfl
    exact unjoined dollar first
  · rw [List.head?_eq_none_iff] at empty
    have parts := reads.apart w (by simp [empty, same]) d first
    simp [parts.1] at isWord

theorem bind {name : List Char} (percent : style ≠ .percent) (named : Piece.isName name)
    (allowed : Piece.allowsBind previous)
    (stop : ∀ c ∈ cut.text.head?, Text.isWord c = false)
    (unjoined : style = .dollar → previous ≠ some '$' ∧ cut.first.head? ≠ some '$')
    (reads : Reads style (':' :: name).getLast? (position + 1) cut) :
    Reads style previous position (cut.after (.bind (String.ofList name))) where
  covers := by
    have stops := stops_behind named stop (fun dollar => (unjoined dollar).2) reads
    have suffix := List.suffix_append (':' :: name).getLast?.toList cut.first
    have later := reads.covers.append (reads.apart.of_suffix suffix)
    have old : text ⟨[], (cut.after (.bind (String.ofList name))).rest⟩ =
        (':' :: name) ++ (cut.first ++ text ⟨[], cut.rest⟩) := by
      simp [text, after, Placeholder.chars]
    rw [behind_after_bind, old]
    exact later.marker percent position named stops
  apart := by
    obtain ⟨digits, written, -⟩ := style.toList_marker percent position
    rw [behind_after_bind, written]
    intro c last d first
    obtain rfl : style.sign = d := by simpa using first
    obtain rfl : previous = some c := by
      cases previous with
      | none => simp [after] at last
      | some c' => simpa [after] using last
    exact parts_sign percent allowed fun dollar => by simpa using (unjoined dollar).1
  starts := by
    rw [behind_after_bind]
    obtain ⟨digits, written, -⟩ := style.toList_marker percent position
    exact .inr ⟨rfl, by simp [written]⟩
  reads := by
    have stops := stops_behind named stop (fun dollar => (unjoined dollar).2) reads
    have nothing : (cut.after (.bind (String.ofList name))).first = [] := rfl
    rw [behind_after_bind, readBehind_after_bind, nothing, List.nil_append, readMarkers_nil,
      List.nil_append, readMarkers_marker percent position stops, reads.reads]

end Reads

theorem ofPieces_cons {p : Piece} (isSkipped : p.IsSkipped) (pieces : List Piece) :
    ofPieces (p :: pieces) = (ofPieces pieces).prepend p.chars := by
  cases p <;> first | rfl | exact isSkipped.elim

theorem reads_scan {style : MarkerStyle} (percent : style ≠ .percent) {previous : Option Char}
    {cs : List Char} (position : Nat)
    (noDirects : (ofPieces (Piece.scan previous cs)).directNames = [])
    (unjoined : style = .dollar → Unjoined '$'
      (previous.toList ++ (ofPieces (Piece.scan previous cs)).first)
      (ofPieces (Piece.scan previous cs)).rest) :
    Reads style previous position (ofPieces (Piece.scan previous cs)) := by
  fun_induction Piece.scan previous cs generalizing position with
  | case1 => exact .nil
  | case2 previous c cs p rest found _ ih =>
    have parts : (ofPieces (Piece.scan p.chars.getLast? rest)).text = rest := by
      rw [text_ofPieces, Piece.text_scan]
    simp only [Piece.special?_eq_skipped?, Option.orElse_eq_orElse, Option.orElse_eq_or,
      Option.or_eq_some_iff] at found
    rcases found with found | ⟨-, found | ⟨-, found⟩⟩
    · obtain ⟨isSkipped, wellFormed, ends⟩ := Piece.wellFormed_of_skipped? found
      rw [ofPieces_cons isSkipped] at noDirects unjoined ⊢
      rw [← parts] at ends
      exact .skipped isSkipped wellFormed ends
        (ih position noDirects fun dollar => (unjoined dollar).of_prepend p.chars_ne_nil)
    · obtain ⟨name, rfl, named, allowed, stop⟩ := Piece.eq_bind_of_bind? found
      rw [← parts] at stop
      rw [ofPieces] at noDirects unjoined ⊢
      rw [directNames_after] at noDirects
      have inner := fun dollar => (unjoined dollar).2.2.of_named (by decide) named
      refine .bind percent named allowed stop ?_ (ih (position + 1) noDirects inner)
      intro dollar
      obtain ⟨before, behind, -⟩ := unjoined dollar
      refine ⟨?_, behind⟩
      rintro rfl
      exact before rfl
    · obtain ⟨name, rfl⟩ := Piece.eq_direct_of_direct? found
      simp [ofPieces, Placeholder.directName?] at noDirects
  | case3 previous c cs unfound ih =>
    have parts : (ofPieces (Piece.scan (some c) cs)).text = cs := by
      rw [text_ofPieces, Piece.text_scan]
    have unskipped := Piece.skipped?_eq_none unfound
    have same : ofPieces (.plain c :: Piece.scan (some c) cs) =
        (ofPieces (Piece.scan (some c) cs)).prepend [c] := rfl
    rw [same] at noDirects unjoined ⊢
    rw [← parts] at unskipped
    exact .plain unskipped
      (ih position noDirects fun dollar => (unjoined dollar).of_prepend (by simp))

section Count

variable {style : MarkerStyle} {cut : Cut}

theorem length_rest (noDirects : cut.directNames = []) :
    cut.rest.length = cut.bindNames.length := by
  obtain ⟨first, rest⟩ := cut
  induction rest with
  | nil => rfl
  | cons head rest ih =>
    obtain ⟨placeholder, between⟩ := head
    cases placeholder with
    | bind name => exact congrArg Nat.succ (ih noDirects)
    | direct name => cases noDirects

theorem readZipped_of_unmarked {rest : List (Placeholder × List Char)} {markers : List (List Char)}
    (same : rest.length = markers.length)
    (unmarked : ∀ between ∈ rest.map (·.2), readMarkers style between = []) :
    readZipped style rest markers = markers := by
  induction rest generalizing markers with
  | nil => exact (List.length_eq_zero_iff.mp same.symm).symm
  | cons placed rest ih =>
    obtain ⟨here, unmarked⟩ := List.forall_mem_cons.mp unmarked
    cases markers with
    | nil => cases same
    | cons marker markers =>
      have later := ih (Nat.succ.inj same) unmarked
      simp [readZipped_cons, here, later]

theorem length_readZipped {rest : List (Placeholder × List Char)} {markers : List (List Char)}
    (same : rest.length = markers.length) : (readZipped style rest markers).length =
      markers.length + ((rest.map (·.2)).flatMap (readMarkers style)).length := by
  induction rest generalizing markers with
  | nil =>
    obtain rfl := List.length_eq_zero_iff.mp same.symm
    rfl
  | cons placed rest ih =>
    cases markers with
    | nil => cases same
    | cons marker markers =>
      have later := ih (Nat.succ.inj same)
      simp only [readZipped_cons, List.map_cons, List.flatMap_cons, List.length_cons,
        List.length_append, later]
      omega

end Count

end Cut

namespace MarkerStyle

theorem escape_eq_id {style : MarkerStyle} (percent : style ≠ .percent) : style.escape = id := by
  cases style <;> first | rfl | exact absurd rfl percent

theorem length_markers (style : MarkerStyle) (position count : Nat) :
    (style.markers position count).length = count := by
  simp [markers]

end MarkerStyle

namespace MarkedText

/-- A driver reads one marker for each bind, and besides them those of the text itself. -/
theorem readMarkers_sql {style : MarkerStyle} (percent : style ≠ .percent) {sql : String}
    (noDirects : (ofText style sql).directNames = [])
    (unjoined : style = .dollar →
      Cut.Unjoined '$' (Cut.ofText sql).first (Cut.ofText sql).rest) :
    let cut := Cut.ofText sql
    let t := ofText style sql
    let markers := style.markers 1 t.bindNames.length
    let read := readMarkers style t.sql.toList
    cut.text = sql.toList ∧ cut.bindNames = t.bindNames ∧
    read = readMarkers style cut.first ++ Cut.readZipped style cut.rest markers ∧
    ((∀ text ∈ cut.texts, readMarkers style text = []) → read = markers) ∧
    (read.length = t.bindNames.length → ∀ text ∈ cut.texts, readMarkers style text = []) := by
  intro cut t markers read
  have names : cut.bindNames = t.bindNames := (bindNames_ofText style sql).symm
  have noDirects : cut.directNames = [] := directNames_ofText style sql ▸ noDirects
  have reads : Cut.Reads style none 1 cut := Cut.reads_scan percent 1 noDirects unjoined
  have written : t.sql.toList = cut.first ++ cut.behind style 1 := by
    rw [sql_ofText, MarkerStyle.escape_eq_id percent]
    simp [Cut.fill, Cut.behind, cut, noDirects]
  have whole : read = readMarkers style cut.first ++ Cut.readZipped style cut.rest markers := by
    change readMarkers style t.sql.toList = _
    rw [written, reads.reads, Cut.readBehind, names]
  have places : cut.rest.length = markers.length := by
    rw [Cut.length_rest noDirects, names, MarkerStyle.length_markers]
  refine ⟨Cut.text_ofText sql, names, whole, ?_, ?_⟩
  · intro unmarked
    obtain ⟨first, between⟩ := List.forall_mem_cons.mp unmarked
    rw [whole, first, List.nil_append, Cut.readZipped_of_unmarked places between]
  · intro count
    have all : (cut.texts.flatMap (readMarkers style)).length = 0 := by
      rw [whole, List.length_append, Cut.length_readZipped places, MarkerStyle.length_markers]
        at count
      rw [Cut.texts, List.flatMap_cons, List.length_append]
      omega
    exact List.flatMap_eq_nil_iff.mp (List.length_eq_zero_iff.mp all)

def quotedSigns : List Piece :=
  [.quoted '\'' ['$', '1'], .plain ' ', .bind ['a'], .cast ['i', 'n', 't'], .lineComment ['$', '2'],
    .plain '\n', .bind ['b']]

theorem readMarkers_quotedSigns :
    let sql := "'$1' :a::int--$2\n:b"
    MarkerStyle.dollar ≠ .percent ∧ (ofText .dollar sql).directNames = [] ∧
    Cut.Unjoined '$' (Cut.ofText sql).first (Cut.ofText sql).rest ∧
    readMarkers .dollar (ofText .dollar sql).sql.toList = [['$', '1'], ['$', '2']] := by
  intro sql
  have read : Piece.ofText sql = quotedSigns := Piece.ofText_of_isFound (by decide) (by decide)
  have cut : Cut.ofText sql = Cut.ofPieces quotedSigns := congrArg Cut.ofPieces read
  have percent : MarkerStyle.dollar ≠ .percent := by decide
  have noDirects : (ofText .dollar sql).directNames = [] := by
    rw [directNames_ofText, cut]
    rfl
  have unjoined : Cut.Unjoined '$' (Cut.ofText sql).first (Cut.ofText sql).rest := by
    rw [cut]
    exact ⟨by decide, by decide, by decide, by decide, trivial⟩
  obtain ⟨-, names, -, unmarked, -⟩ := readMarkers_sql percent noDirects fun _ => unjoined
  have texts : ∀ text ∈ (Cut.ofText sql).texts, readMarkers .dollar text = [] := by
    rw [cut]
    decide
  refine ⟨percent, noDirects, unjoined, ?_⟩
  rw [unmarked texts, ← names, cut]
  decide

/-- Marker signs in the text itself, and dollar signs that stand before and behind binds. -/
theorem readMarkers_ne_markers :
    ((ofText .question "SELECT ?").directNames = [] ∧
      (ofText .question "SELECT ?").bindNames = [] ∧
      readMarkers .question (ofText .question "SELECT ?").sql.toList = [['?']]) ∧
    ((ofText .dollar "$:a $:b").directNames = [] ∧
      (ofText .dollar "$:a $:b").bindNames = ["a", "b"] ∧
      readMarkers .dollar (ofText .dollar "$:a $:b").sql.toList = []) ∧
    (ofText .dollar ":a$ '$1$'").directNames = [] ∧
      (ofText .dollar ":a$ '$1$'").bindNames = ["a"] ∧
      readMarkers .dollar (ofText .dollar ":a$ '$1$'").sql.toList = [] := by
  have literal : Piece.ofText "SELECT ?" = "SELECT ?".toList.map .plain :=
    Piece.scan_of_plain (List.all_eq_true.mp (by decide))
  have before : Piece.ofText "$:a $:b" =
      [.plain '$', .bind ['a'], .plain ' ', .plain '$', .bind ['b']] :=
    Piece.ofText_of_isFound (by decide) (by decide)
  have behind : Piece.ofText ":a$ '$1$'" =
      [.bind ['a'], .plain '$', .plain ' ', .quoted '\'' ['$', '1', '$']] :=
    Piece.ofText_of_isFound (by decide) (by decide)
  rw [ofText, ofText, ofText, literal, before, behind]
  decide

end MarkedText

end QueryBook
