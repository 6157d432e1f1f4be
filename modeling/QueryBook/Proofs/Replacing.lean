import QueryBook.Proofs.Printing
import Mathlib.Data.List.Infix

set_option autoImplicit false

namespace QueryBook

namespace Text

variable {mark cs body rest : List Char}

theorem isSome_after?_iff : (after? mark cs).isSome ↔ mark <+: cs := by
  constructor
  · intro found
    obtain ⟨rest, found⟩ := Option.isSome_iff_exists.mp found
    exact ⟨rest, (eq_of_after? found).symm⟩
  · rintro ⟨rest, rfl⟩
    simp

theorem isSome_breakAt?_iff : (breakAt? mark cs).isSome ↔ mark <:+: cs := by
  induction cs with
  | nil =>
    rw [breakAt?, Option.isSome_map, isSome_after?_iff, List.prefix_nil, List.infix_nil]
  | cons c cs ih =>
    rw [breakAt?, List.infix_cons_iff, ← isSome_after?_iff, ← ih]
    cases after? mark (c :: cs) <;> simp

theorem closedBy_of_breakAt? (found : breakAt? mark cs = some (body, rest)) :
    ClosedBy mark body := by
  induction cs generalizing body with
  | nil =>
    have whole := eq_of_breakAt? found
    obtain ⟨rfl, -⟩ := List.append_eq_nil_iff.mp whole.symm
    intro i inside
    simp at inside
  | cons c cs ih =>
    have whole := eq_of_breakAt? found
    rw [breakAt?] at found
    split at found
    next after here =>
      obtain ⟨rfl, -⟩ := Prod.mk.inj (Option.some.inj found)
      intro i inside
      simp at inside
    next nowhere =>
      obtain ⟨⟨inner, rest'⟩, later, same⟩ := Option.map_eq_some_iff.mp found
      obtain ⟨rfl, rfl⟩ := Prod.mk.inj same
      rintro (_ | i) inside
      · intro early
        have here : mark <+: c :: cs := by
          rw [whole, ← List.append_assoc]
          exact early.trans (List.prefix_append _ _)
        exact absurd (isSome_after?_iff.mpr here) (by simp [nowhere])
      · exact ih later i (by simpa using inside)

end Text

namespace Piece

def skipped? (cs : List Char) : Option (Piece × List Char) :=
  quoted? cs <|> dollarQuoted? cs <|> lineComment? cs <|> blockComment? cs <|> cast? cs

theorem special?_eq_skipped? (previous : Option Char) (cs : List Char) :
    special? previous cs = (skipped? cs <|> bind? previous cs <|> direct? cs) := by
  simp [special?, skipped?, Option.or_assoc]

def IsSkipped : Piece → Prop
  | .plain _ | .bind _ | .direct _ => False
  | _ => True

section Skipped

variable {cs rest : List Char} {p : Piece}

theorem isQuotedBody_of_quotedBody? {mark : Char} {body : List Char}
    (found : quotedBody? mark cs = some (body, rest)) : isQuotedBody mark body := by
  fun_induction quotedBody? mark cs generalizing body rest with
  | case1 => simp at found
  | case2 =>
    obtain ⟨rfl, -⟩ := Prod.mk.inj (Option.some.inj found)
    rfl
  | case3 => simp at found
  | case4 other escaped rest ih =>
    obtain ⟨⟨inner, rest'⟩, later, same⟩ := Option.map_eq_some_iff.mp found
    obtain ⟨rfl, rfl⟩ := Prod.mk.inj same
    rw [isQuotedBody]
    exact ih later
  | case5 c rest unmarked plain ih =>
    obtain ⟨⟨inner, rest'⟩, later, same⟩ := Option.map_eq_some_iff.mp found
    obtain ⟨rfl, rfl⟩ := Prod.mk.inj same
    rw [isQuotedBody]
    · simp [unmarked, plain, ih later]
    · simp [plain]

theorem head?_dropWhile_eq_false (inside : Char → Bool) :
    ∀ c ∈ (cs.dropWhile inside).head?, inside c = false := by
  intro c first
  have stopped := List.head?_dropWhile_not inside cs
  rw [Option.mem_def.mp first] at stopped
  exact stopped

theorem wellFormed_of_skipped? (found : skipped? cs = some (p, rest)) :
    p.IsSkipped ∧ p.WellFormed ∧ p.EndsBefore rest.head? := by
  simp only [skipped?, Option.orElse_eq_orElse, Option.orElse_eq_or, Option.or_eq_some_iff] at found
  rcases found with found | ⟨-, found | ⟨-, found | ⟨-, found | ⟨-, found⟩⟩⟩⟩
  · revert found
    fun_cases quoted? cs with
    | case1 c cs isMark =>
      intro found
      obtain ⟨⟨body, after⟩, inner, same⟩ := Option.map_eq_some_iff.mp found
      obtain ⟨rfl, rfl⟩ := Prod.mk.inj same
      exact ⟨trivial, ⟨isMark, isQuotedBody_of_quotedBody? inner⟩, trivial⟩
    | _ => simp
  · revert found
    fun_cases dollarQuoted? cs with
    | case1 cs tag after split =>
      intro found
      obtain ⟨⟨body, after⟩, inner, same⟩ := Option.map_eq_some_iff.mp found
      obtain ⟨rfl, rfl⟩ := Prod.mk.inj same
      have isTag : ∀ c ∈ tag, Text.isWord c := List.all_eq_true.mp List.all_takeWhile
      exact ⟨trivial, ⟨isTag, Text.closedBy_of_breakAt? inner⟩, trivial⟩
    | _ => simp
  · revert found
    fun_cases lineComment? cs with
    | case1 cs =>
      intro found
      obtain ⟨rfl, rfl⟩ := Prod.mk.inj (Option.some.inj found)
      exact ⟨trivial, List.all_eq_true.mp List.all_takeWhile, head?_dropWhile_eq_false isLineBody⟩
    | _ => simp
  · revert found
    fun_cases blockComment? cs with
    | case1 cs =>
      intro found
      obtain ⟨⟨body, after⟩, inner, same⟩ := Option.map_eq_some_iff.mp found
      obtain ⟨rfl, rfl⟩ := Prod.mk.inj same
      exact ⟨trivial, Text.closedBy_of_breakAt? inner, trivial⟩
    | _ => simp
  · revert found
    fun_cases cast? cs with
    | case1 c cs isWord =>
      intro found
      obtain ⟨rfl, rfl⟩ := Prod.mk.inj (Option.some.inj found)
      have isWord : ∀ d ∈ c :: cs.takeWhile Text.isWord, Text.isWord d :=
        List.forall_mem_cons.mpr ⟨isWord, List.all_eq_true.mp List.all_takeWhile⟩
      exact ⟨trivial, ⟨by simp, isWord⟩, head?_dropWhile_eq_false Text.isWord⟩
    | _ => simp

theorem eq_bind_of_bind? {previous : Option Char} (found : bind? previous cs = some (p, rest)) :
    ∃ name, p = .bind name ∧ isName name ∧ allowsBind previous ∧
      ∀ c ∈ rest.head?, Text.isWord c = false := by
  revert found
  fun_cases bind? previous cs with
  | case1 cs allowed =>
    intro found
    obtain ⟨⟨name, after⟩, named, same⟩ := Option.map_eq_some_iff.mp found
    obtain ⟨rfl, rfl⟩ := Prod.mk.inj same
    revert named
    fun_cases name? cs with
    | case1 c cs start =>
      intro named
      obtain ⟨rfl, rfl⟩ := Prod.mk.inj (Option.some.inj named)
      refine ⟨_, rfl, ?_, allowed, head?_dropWhile_eq_false Text.isWord⟩
      exact isName_iff.mpr ⟨c, _, rfl, start, List.all_eq_true.mp List.all_takeWhile⟩
    | _ => simp
  | _ => simp

theorem eq_direct_of_direct? (found : direct? cs = some (p, rest)) : ∃ name, p = .direct name := by
  revert found
  fun_cases direct? cs with
  | case1 cs =>
    intro found
    obtain ⟨⟨name, after⟩, named, same⟩ := Option.map_eq_some_iff.mp found
    exact ⟨name, (Prod.mk.inj same).1.symm⟩
  | _ => simp

theorem skipped?_chars (isSkipped : p.IsSkipped) (wellFormed : p.WellFormed)
    (ends : p.EndsBefore cs.head?) : skipped? (p.chars ++ cs) = some (p, cs) := by
  have special : ∀ c, p ≠ .plain c := by
    rintro c rfl
    exact isSkipped
  have starts : p.StartsAfter none := by
    cases p <;> simp [StartsAfter]
  have found : special? none (p.chars ++ cs) = some (p, cs) :=
    special?_chars special wellFormed starts ends (by simp)
  simp only [special?_eq_skipped?, Option.orElse_eq_orElse, Option.orElse_eq_or,
    Option.or_eq_some_iff] at found
  rcases found with found | ⟨-, found | ⟨-, found⟩⟩
  · exact found
  · obtain ⟨name, rfl, -⟩ := eq_bind_of_bind? found
    exact isSkipped.elim
  · obtain ⟨name, rfl⟩ := eq_direct_of_direct? found
    exact isSkipped.elim

theorem endsBefore_iff {next : Option Char} :
    p.EndsBefore next ↔ ∀ c ∈ next, p.EndsBefore (some c) := by
  cases p <;> simp [EndsBefore]

inductive Opens : List Char → Prop where
  | quoted {mark : Char} {body : List Char} (isMark : mark = '"' ∨ mark = '\'')
      (closed : (quotedBody? mark body).isSome) : Opens (mark :: body)
  | dollarQuoted {tag after : List Char} (isTag : ∀ c ∈ tag, Text.isWord c)
      (closed : delimiter tag <:+: after) : Opens (delimiter tag ++ after)
  | lineComment (after : List Char) : Opens ('-' :: '-' :: after)
  | blockComment {after : List Char} (closed : ['*', '/'] <:+: after) :
      Opens ('/' :: '*' :: after)
  | cast {c : Char} (isWord : Text.isWord c) (after : List Char) : Opens (':' :: ':' :: c :: after)

theorem opens_chars (isSkipped : p.IsSkipped) (wellFormed : p.WellFormed) (cs : List Char) :
    Opens (p.chars ++ cs) := by
  cases p with
  | quoted mark body =>
    obtain ⟨isMark, isBody⟩ := wellFormed
    have closed := quotedBody?_of_isQuotedBody (ne_backslash isMark) isBody cs
    have opened : Opens (mark :: (body ++ mark :: cs)) := .quoted isMark (by simp [closed])
    simpa [chars] using opened
  | dollarQuoted tag body =>
    rw [chars, List.append_assoc]
    exact .dollarQuoted wellFormed.1 ⟨body, cs, rfl⟩
  | lineComment body => exact .lineComment _
  | blockComment body =>
    have opened : Opens ('/' :: '*' :: (body ++ ['*', '/'] ++ cs)) :=
      .blockComment ⟨body, cs, rfl⟩
    simpa [chars] using opened
  | cast word =>
    obtain ⟨nonempty, isWord⟩ := wellFormed
    obtain ⟨c, word, rfl⟩ := List.exists_cons_of_ne_nil nonempty
    exact .cast (isWord c (by simp)) _
  | plain _ | bind _ | direct _ => exact isSkipped.elim

theorem isSome_skipped?_iff : (skipped? cs).isSome ↔ Opens cs := by
  constructor
  · intro found
    obtain ⟨⟨p, rest⟩, found⟩ := Option.isSome_iff_exists.mp found
    obtain ⟨isSkipped, wellFormed, -⟩ := wellFormed_of_skipped? found
    have special : special? none cs = some (p, rest) := by
      simp [special?_eq_skipped?, found]
    rw [eq_of_special? special]
    exact opens_chars isSkipped wellFormed rest
  · rintro (⟨isMark, closed⟩ | ⟨isTag, closed⟩ | after | closed | ⟨isWord, after⟩)
    · simp [skipped?, quoted?, isMark, closed]
    · rename_i tag after
      have stop : ∀ c ∈ ('$' :: after).head?, Text.isWord c = false := by
        simp only [List.head?_cons, Option.mem_some_iff, forall_eq']
        decide
      have opening : delimiter tag ++ after = '$' :: (tag ++ '$' :: after) := by
        simp [delimiter]
      rw [← Text.isSome_breakAt?_iff] at closed
      simp [opening, skipped?, quoted?, dollarQuoted?, Text.takeWhile_append_of_stop isTag stop,
        Text.dropWhile_append_of_stop isTag stop, closed]
    · simp [skipped?, lineComment?]
    · simp [skipped?, blockComment?, Text.isSome_breakAt?_iff.mpr closed]
    · simp [skipped?, cast?, isWord]

theorem skipped?_eq_none {previous : Option Char} (unfound : special? previous cs = none) :
    skipped? cs = none := by
  simp only [special?_eq_skipped?, Option.orElse_eq_orElse, Option.orElse_eq_or,
    Option.or_eq_none_iff] at unfound
  exact unfound.1

end Skipped

section Closing

variable {mark : Char}

theorem isSome_quotedBody?_escaped (quote : mark ≠ '\\') (c : Char) (cs : List Char) :
    (quotedBody? mark ('\\' :: c :: cs)).isSome = (quotedBody? mark cs).isSome := by
  simp [quotedBody?, quote.symm]

theorem isSome_quotedBody?_cons {c : Char} (unmarked : c ≠ mark) (plain : c ≠ '\\')
    (cs : List Char) : (quotedBody? mark (c :: cs)).isSome = (quotedBody? mark cs).isSome := by
  rw [quotedBody?.eq_def]
  simp [unmarked, plain]

def IsUnquoting (c : Char) : Prop :=
  c ≠ '"' ∧ c ≠ '\'' ∧ c ≠ '\\'

instance : DecidablePred IsUnquoting :=
  fun c => inferInstanceAs (Decidable (c ≠ '"' ∧ c ≠ '\'' ∧ c ≠ '\\'))

theorem isUnquoting_of_isWord {c : Char} (isWord : Text.isWord c) : IsUnquoting c := by
  refine ⟨?_, ?_, ?_⟩ <;>
  · rintro rfl
    exact absurd isWord (by decide)

theorem isSome_quotedBody?_append (isMark : mark = '"' ∨ mark = '\'') {word : List Char}
    (unquoting : ∀ c ∈ word, IsUnquoting c) (cs : List Char) :
    (quotedBody? mark (word ++ cs)).isSome = (quotedBody? mark cs).isSome := by
  induction word with
  | nil => rfl
  | cons c word ih =>
    obtain ⟨⟨double, single, plain⟩, unquoting⟩ := List.forall_mem_cons.mp unquoting
    have unmarked : c ≠ mark := by
      rcases isMark with rfl | rfl <;> assumption
    rw [List.cons_append, isSome_quotedBody?_cons unmarked plain, ih unquoting]

def IsDelimiter (d : List Char) : Prop :=
  d = ['*', '/'] ∨ ∃ tag, (∀ c ∈ tag, Text.isWord c) ∧ d = delimiter tag

-- What a text would close, with a quote mark or a delimiter, another one closes too.
structure Covers (a b : List Char) : Prop where
  quotes : ∀ mark, mark = '"' ∨ mark = '\'' → (quotedBody? mark b).isSome →
    (quotedBody? mark a).isSome
  escapes : ∀ mark, mark = '"' ∨ mark = '\'' → (quotedBody? mark ('\\' :: b)).isSome →
    (quotedBody? mark ('\\' :: a)).isSome
  delimits : ∀ d, IsDelimiter d → d <:+: b → d <:+: a

-- The sign of a marker behind a character that makes no delimiter and no cast with it.
def Parts (c d : Char) : Prop :=
  Text.isWord c = false ∧ c ≠ ':' ∧ (d = '?' ∨ d = ':' ∨ d = '$' ∧ c ≠ '$')

def Apart (front back : List Char) : Prop :=
  ∀ c ∈ front.getLast?, ∀ d ∈ back.head?, Parts c d

variable {a b front back : List Char}

theorem Apart.of_suffix {front' : List Char} (apart : Apart front back)
    (suffix : front' <:+ front) : Apart front' back := by
  obtain ⟨before, rfl⟩ := suffix
  intro c last
  exact apart c (by simp [List.getLast?_append, Option.mem_def.mp last])

theorem isWord_or_dollar {tag : List Char} (isTag : ∀ c ∈ tag, Text.isWord c) :
    ∀ c ∈ delimiter tag, Text.isWord c ∨ c = '$' := by
  intro c member
  simp only [delimiter, List.mem_cons, List.mem_append, List.not_mem_nil, or_false] at member
  rcases member with rfl | member | rfl
  · exact .inr rfl
  · exact .inl (isTag c member)
  · exact .inr rfl

theorem IsDelimiter.not_parts {m : List Char} (isDelimiter : IsDelimiter m) {c d : Char}
    (adjacent : [c, d] <:+: m) : ¬ Parts c d := by
  rintro ⟨noWord, -, sign⟩
  rcases isDelimiter with rfl | ⟨tag, isTag, rfl⟩
  · have inside : d = '*' ∨ d = '/' := by simpa using adjacent.subset (a := d) (by simp)
    rcases inside with rfl | rfl <;> simp at sign
  · have inside := isWord_or_dollar isTag
    obtain rfl : c = '$' :=
      (inside c (adjacent.subset (by simp))).resolve_left (by simp [noWord])
    rcases sign with rfl | rfl | ⟨-, other⟩
    · exact absurd (inside '?' (adjacent.subset (by simp))) (by decide)
    · exact absurd (inside ':' (adjacent.subset (by simp))) (by decide)
    · exact other rfl

theorem Apart.eq_nil_or (apart : Apart front back) {s t : List Char}
    (unparted : ∀ c d, [c, d] <:+: s ++ t → ¬ Parts c d) (ends : s <:+ front)
    (starts : t <+: back) : s = [] ∨ t = [] := by
  rcases List.eq_nil_or_concat' s with rfl | ⟨s, c, rfl⟩
  · exact .inl rfl
  · cases t with
    | nil => exact .inr rfl
    | cons d t =>
      obtain ⟨after, rfl⟩ := starts
      have parts := apart.of_suffix ends c (by simp) d (by simp)
      exact absurd parts (unparted c d ⟨s, t, by simp⟩)

theorem Covers.nil (a : List Char) : Covers a [] where
  quotes mark isMark closed := by simp [quotedBody?] at closed
  escapes mark isMark closed := by
    have quote := ne_backslash isMark
    simp [quotedBody?, quote.symm] at closed
  delimits d isDelimiter within := by
    obtain rfl := List.infix_nil.mp within
    rcases isDelimiter with same | ⟨tag, -, same⟩ <;> simp [delimiter] at same

-- A backslash at the end of the front takes the first character of the back with it.
theorem isSome_quotedBody?_append_left (isMark : mark = '"' ∨ mark = '\'')
    (quotes : (quotedBody? mark b).isSome → (quotedBody? mark a).isSome)
    (escapes : (quotedBody? mark ('\\' :: b)).isSome → (quotedBody? mark ('\\' :: a)).isSome)
    (front : List Char) :
    ((quotedBody? mark (front ++ b)).isSome → (quotedBody? mark (front ++ a)).isSome) ∧
      ((quotedBody? mark ('\\' :: (front ++ b))).isSome →
        (quotedBody? mark ('\\' :: (front ++ a))).isSome) := by
  have quote := ne_backslash isMark
  induction front with
  | nil => exact ⟨quotes, escapes⟩
  | cons c front ih =>
    simp only [List.cons_append, isSome_quotedBody?_escaped quote]
    refine ⟨?_, ih.1⟩
    by_cases plain : c = '\\'
    · subst plain
      exact ih.2
    · by_cases same : c = mark
      · intro closed
        rw [quotedBody?.eq_def]
        simp [same]
      · rw [isSome_quotedBody?_cons same plain, isSome_quotedBody?_cons same plain]
        exact ih.1

theorem Covers.append (covers : Covers a b) (apart : Apart front b) :
    Covers (front ++ a) (front ++ b) where
  quotes mark isMark :=
    (isSome_quotedBody?_append_left isMark (covers.quotes mark isMark)
      (covers.escapes mark isMark) front).1
  escapes mark isMark :=
    (isSome_quotedBody?_append_left isMark (covers.quotes mark isMark)
      (covers.escapes mark isMark) front).2
  delimits d isDelimiter within := by
    rcases List.infix_append_iff.mp within with inFront | inBack | ⟨s, t, rfl, ends, starts⟩
    · exact inFront.trans (List.prefix_append front a).isInfix
    · exact (covers.delimits d isDelimiter inBack).trans (List.suffix_append front a).isInfix
    · have unparted (c d : Char) := isDelimiter.not_parts (c := c) (d := d)
      rcases apart.eq_nil_or unparted ends starts with rfl | rfl
      · exact (covers.delimits t isDelimiter starts.isInfix).trans
          (List.suffix_append front a).isInfix
      · rw [List.append_nil]
        exact ends.isInfix.trans (List.prefix_append front a).isInfix

theorem Covers.replace (covers : Covers a b) {u v : List Char} (nonemptyOld : u ≠ [])
    (nonemptyNew : v ≠ []) (unquotingOld : ∀ c ∈ u, IsUnquoting c)
    (unquotingNew : ∀ c ∈ v, IsUnquoting c)
    (undelimited : ∀ d, IsDelimiter d → d <:+: v ++ b → d <:+: b) : Covers (u ++ a) (v ++ b) where
  quotes mark isMark closed := by
    rw [isSome_quotedBody?_append isMark unquotingNew] at closed
    rw [isSome_quotedBody?_append isMark unquotingOld]
    exact covers.quotes mark isMark closed
  escapes mark isMark closed := by
    have quote := ne_backslash isMark
    obtain ⟨c, u, rfl⟩ := List.exists_cons_of_ne_nil nonemptyOld
    obtain ⟨d, v, rfl⟩ := List.exists_cons_of_ne_nil nonemptyNew
    rw [List.cons_append, isSome_quotedBody?_escaped quote,
      isSome_quotedBody?_append isMark (List.forall_mem_cons.mp unquotingNew).2] at closed
    rw [List.cons_append, isSome_quotedBody?_escaped quote,
      isSome_quotedBody?_append isMark (List.forall_mem_cons.mp unquotingOld).2]
    exact covers.quotes mark isMark closed
  delimits d isDelimiter within :=
    (covers.delimits d isDelimiter (undelimited d isDelimiter within)).trans
      (List.suffix_append u a).isInfix

theorem Opens.of_covers (covers : Covers a b) (apart : Apart front b) (nonempty : front ≠ [])
    (opens : Opens (front ++ b)) : Opens (front ++ a) := by
  generalize same : front ++ b = cs at opens
  have within (opening : List Char) {after : List Char} (split : front ++ b = opening ++ after)
      (unparted : ∀ c d, [c, d] <:+: opening → ¬ Parts c d) :
      ∃ front', front = opening ++ front' ∧ after = front' ++ b ∧
        Covers (front' ++ a) (front' ++ b) := by
    have inside : opening <+: front := by
      rcases List.append_eq_append_iff.mp split with ⟨t, rfl, rfl⟩ | ⟨front', rfl, -⟩
      · have nothing := apart.eq_nil_or unparted List.suffix_rfl (List.prefix_append t after)
        simp [nothing.resolve_left nonempty]
      · exact List.prefix_append opening front'
    obtain ⟨front', rfl⟩ := inside
    rw [List.append_assoc, List.append_cancel_left_eq] at split
    exact ⟨front', rfl, split.symm,
      covers.append (apart.of_suffix (List.suffix_append opening front'))⟩
  cases opens with
  | @quoted mark body isMark closed =>
    obtain ⟨front, rfl, rfl, later⟩ := within [mark] same (by simp [List.infix_cons_iff])
    exact .quoted isMark (later.quotes mark isMark closed)
  | @dollarQuoted tag after isTag closed =>
    have isDelimiter : IsDelimiter (delimiter tag) := .inr ⟨tag, isTag, rfl⟩
    obtain ⟨front, rfl, rfl, later⟩ := within (delimiter tag) same fun c d => isDelimiter.not_parts
    rw [List.append_assoc]
    exact .dollarQuoted isTag (later.delimits _ isDelimiter closed)
  | lineComment after =>
    have dashes : ∀ p q, [p, q] <:+: ['-', '-'] → ¬ Parts p q := by
      simp +contextual [List.infix_cons_iff, Parts]
    obtain ⟨front, rfl, -⟩ := within ['-', '-'] same dashes
    exact .lineComment _
  | @blockComment after closed =>
    have slash : ∀ p q, [p, q] <:+: ['/', '*'] → ¬ Parts p q := by
      simp +contextual [List.infix_cons_iff, Parts]
    obtain ⟨front, rfl, rfl, later⟩ := within ['/', '*'] same slash
    exact .blockComment (later.delimits _ (.inl rfl) closed)
  | @cast c isWord after =>
    have colons (p q : Char) (adjacent : [p, q] <:+: [':', ':', c]) : ¬ Parts p q := by
      have colon : p = ':' ∧ q = ':' ∨ p = ':' ∧ q = c := by
        simpa [List.infix_cons_iff] using adjacent
      rintro ⟨-, other, -⟩
      exact other (colon.elim And.left And.left)
    obtain ⟨front, rfl, -⟩ := within [':', ':', c] same colons
    exact .cast isWord _

theorem skipped?_append_of_covers (covers : Covers a b) (apart : Apart front b)
    (nonempty : front ≠ []) (unfound : skipped? (front ++ a) = none) :
    skipped? (front ++ b) = none := by
  have closed : ¬ Opens (front ++ a) := by simp [← isSome_skipped?_iff, unfound]
  by_contra found
  rw [← Ne, ← Option.isSome_iff_ne_none, isSome_skipped?_iff] at found
  exact closed (found.of_covers covers apart nonempty)

end Closing

end Piece

end QueryBook
