import Mathlib.Data.List.Basic
import QueryBook.Proofs.PlainText

set_option autoImplicit false

namespace QueryBook

namespace Text

section Span

variable {p : Char → Bool} {word rest : List Char}

theorem takeWhile_append_of_stop (inside : ∀ c ∈ word, p c = true)
    (stop : ∀ c ∈ rest.head?, p c = false) : (word ++ rest).takeWhile p = word := by
  rw [List.takeWhile_append_of_pos inside]
  cases rest with
  | nil => simp
  | cons c rest => simp [stop c rfl]

theorem dropWhile_append_of_stop (inside : ∀ c ∈ word, p c = true)
    (stop : ∀ c ∈ rest.head?, p c = false) : (word ++ rest).dropWhile p = rest := by
  rw [List.dropWhile_append_of_pos inside]
  cases rest with
  | nil => rfl
  | cons c rest => simp [stop c rfl]

end Span

variable {mark body : List Char} {b : Char}

-- The mark behind the body is the first one: none starts in the body.
def ClosedBy (mark body : List Char) : Prop :=
  ∀ i < body.length, ¬ mark <+: (body ++ mark).drop i

instance (mark body : List Char) : Decidable (ClosedBy mark body) :=
  inferInstanceAs (Decidable (∀ i < body.length, ¬ mark <+: (body ++ mark).drop i))

theorem ClosedBy.tail (closed : ClosedBy mark (b :: body)) : ClosedBy mark body := by
  intro i inside
  exact closed (i + 1) (by simpa using inside)

theorem after?_of_closedBy (closed : ClosedBy mark (b :: body)) (rest : List Char) :
    after? mark (b :: body ++ (mark ++ rest)) = none := by
  cases found : after? mark (b :: body ++ (mark ++ rest)) with
  | none => rfl
  | some after =>
    have early : mark <+: b :: body ++ mark := by
      have atStart : mark <+: b :: body ++ (mark ++ rest) := ⟨after, (eq_of_after? found).symm⟩
      have whole : b :: body ++ mark <+: b :: body ++ (mark ++ rest) := ⟨rest, by simp⟩
      apply List.prefix_of_prefix_length_le atStart whole
      rw [List.length_append]
      omega
    exact absurd early (closed 0 (by simp))

theorem breakAt?_of_closedBy (closed : ClosedBy mark body) (rest : List Char) :
    breakAt? mark (body ++ (mark ++ rest)) = some (body, rest) := by
  induction body with
  | nil =>
    cases whole : mark ++ rest with
    | nil =>
      obtain ⟨rfl, rfl⟩ := List.append_eq_nil_iff.mp whole
      rfl
    | cons c cs => rw [List.nil_append, breakAt?, ← whole, after?_append]
  | cons b body ih =>
    have later := after?_of_closedBy closed rest
    rw [List.cons_append] at later ⊢
    simp [breakAt?, later, ih closed.tail]

end Text

namespace Piece

-- The mark stands in the body only behind a backslash, and every backslash before a character.
def isQuotedBody (mark : Char) : List Char → Bool
  | [] => true
  | '\\' :: _ :: rest => isQuotedBody mark rest
  | c :: rest => c != mark && c != '\\' && isQuotedBody mark rest

theorem quotedBody?_of_isQuotedBody {mark : Char} {body : List Char} (quote : mark ≠ '\\')
    (isBody : isQuotedBody mark body) (rest : List Char) :
    quotedBody? mark (body ++ mark :: rest) = some (body, rest) := by
  fun_induction isQuotedBody mark body with
  | case1 =>
    unfold quotedBody?
    simp
  | case2 escaped body ih => simp [quotedBody?, quote.symm, ih isBody]
  | case3 c body other ih =>
    simp only [Bool.and_eq_true, bne_iff_ne] at isBody
    obtain ⟨⟨unmarked, plain⟩, isBody⟩ := isBody
    rw [List.cons_append]
    unfold quotedBody?
    simp [unmarked, plain, ih isBody]

def isName : List Char → Bool
  | [] => false
  | c :: rest => Text.isNameStart c && rest.all Text.isWord

section Names

variable {name rest : List Char}

theorem isName_iff :
    isName name ↔
      ∃ c word, name = c :: word ∧ Text.isNameStart c ∧ ∀ d ∈ word, Text.isWord d := by
  cases name with
  | nil => simp [isName]
  | cons c word => simp [isName]

theorem ne_nil_of_isName (named : isName name) : name ≠ [] := by
  obtain ⟨c, word, rfl, -⟩ := isName_iff.mp named
  simp

theorem isWord_of_isName (named : isName name) : ∀ c ∈ name, Text.isWord c := by
  obtain ⟨c, word, rfl, start, isWord⟩ := isName_iff.mp named
  exact List.forall_mem_cons.mpr ⟨Text.isWord_of_isNameStart start, isWord⟩

theorem name?_of_isName (named : isName name) (stop : ∀ c ∈ rest.head?, Text.isWord c = false) :
    name? (name ++ rest) = some (name, rest) := by
  obtain ⟨c, word, rfl, start, isWord⟩ := isName_iff.mp named
  simp [name?, start, Text.takeWhile_append_of_stop isWord stop,
    Text.dropWhile_append_of_stop isWord stop]

end Names

def WellFormed : Piece → Prop
  | .plain c => startsPlain c
  | .quoted mark body => (mark = '"' ∨ mark = '\'') ∧ isQuotedBody mark body
  | .dollarQuoted tag body => (∀ c ∈ tag, Text.isWord c) ∧ Text.ClosedBy (delimiter tag) body
  | .lineComment body => ∀ c ∈ body, isLineBody c
  | .blockComment body => Text.ClosedBy ['*', '/'] body
  | .cast word => word ≠ [] ∧ ∀ c ∈ word, Text.isWord c
  | .bind name => isName name
  | .direct name => isName name

def StartsAfter (previous : Option Char) : Piece → Prop
  | .bind _ => ∀ c ∈ previous, Text.isWord c = false
  | _ => True

def EndsBefore (next : Option Char) : Piece → Prop
  | .lineComment _ => ∀ c ∈ next, isLineBody c = false
  | .cast _ => ∀ c ∈ next, Text.isWord c = false
  | .bind _ => ∀ c ∈ next, Text.isWord c = false
  | .direct _ => ∀ c ∈ next, Text.isWord c = false ∧ c ≠ '$'
  | _ => True

-- Well-formed pieces, written after the character `previous`, that do not run into one another.
def Separate (previous : Option Char) : List Piece → Prop
  | [] => True
  | p :: rest =>
    p.WellFormed ∧ p.StartsAfter previous ∧ p.EndsBefore (text rest).head? ∧
      Separate p.chars.getLast? rest

-- Instances by name: a search may find one that goes through all characters there are.
section Decisions

variable (previous next : Option Char)

instance : DecidablePred WellFormed
  | .plain c => inferInstanceAs (Decidable (startsPlain c = true))
  | .quoted mark body =>
    inferInstanceAs (Decidable ((mark = '"' ∨ mark = '\'') ∧ isQuotedBody mark body = true))
  | .dollarQuoted tag body =>
    have : Decidable (∀ c ∈ tag, Text.isWord c = true) := List.decidableBAll _ tag
    inferInstanceAs
      (Decidable ((∀ c ∈ tag, Text.isWord c = true) ∧ Text.ClosedBy (delimiter tag) body))
  | .lineComment body => List.decidableBAll _ body
  | .blockComment body => inferInstanceAs (Decidable (Text.ClosedBy ['*', '/'] body))
  | .cast word =>
    have : Decidable (∀ c ∈ word, Text.isWord c = true) := List.decidableBAll _ word
    inferInstanceAs (Decidable (word ≠ [] ∧ ∀ c ∈ word, Text.isWord c = true))
  | .bind name => inferInstanceAs (Decidable (isName name = true))
  | .direct name => inferInstanceAs (Decidable (isName name = true))

instance : DecidablePred (StartsAfter previous)
  | .bind _ => Option.decidableForallMem previous
  | .plain _ | .quoted _ _ | .dollarQuoted _ _ | .lineComment _ | .blockComment _ | .cast _
  | .direct _ => isTrue trivial

instance : DecidablePred (EndsBefore next)
  | .lineComment _ => Option.decidableForallMem next
  | .cast _ => Option.decidableForallMem next
  | .bind _ => Option.decidableForallMem next
  | .direct _ => Option.decidableForallMem next
  | .plain _ | .quoted _ _ | .dollarQuoted _ _ | .blockComment _ => isTrue trivial

instance decidableSeparate : (previous : Option Char) → DecidablePred (Separate previous)
  | _, [] => isTrue trivial
  | previous, p :: rest =>
    have := decidableSeparate p.chars.getLast? rest
    inferInstanceAs (Decidable (p.WellFormed ∧ p.StartsAfter previous ∧
      p.EndsBefore (text rest).head? ∧ Separate p.chars.getLast? rest))

end Decisions

section Recognised

variable {previous : Option Char} {cs rest : List Char}

theorem special?_dollar :
    special? previous ('$' :: cs) = (dollarQuoted? ('$' :: cs) <|> direct? ('$' :: cs)) := by
  simp [special?, quoted?, lineComment?, blockComment?, cast?, bind?]

theorem special?_colon :
    special? previous (':' :: cs) = (cast? (':' :: cs) <|> bind? previous (':' :: cs)) := by
  simp [special?, quoted?, dollarQuoted?, lineComment?, blockComment?, direct?]

theorem ne_backslash {mark : Char} (isMark : mark = '"' ∨ mark = '\'') : mark ≠ '\\' := by
  rcases isMark with rfl | rfl <;> decide

theorem special?_quoted {mark : Char} {body : List Char}
    (wellFormed : (quoted mark body).WellFormed) :
    special? previous ((quoted mark body).chars ++ rest) = some (.quoted mark body, rest) := by
  obtain ⟨isMark, isBody⟩ := wellFormed
  have read := quotedBody?_of_isQuotedBody (ne_backslash isMark) isBody rest
  simp [special?, chars, quoted?, isMark, read]

theorem special?_dollarQuoted {tag body : List Char}
    (wellFormed : (dollarQuoted tag body).WellFormed) :
    special? previous ((dollarQuoted tag body).chars ++ rest) =
      some (.dollarQuoted tag body, rest) := by
  obtain ⟨isTag, closed⟩ := wellFormed
  have opening : (dollarQuoted tag body).chars ++ rest =
      '$' :: (tag ++ '$' :: (body ++ (delimiter tag ++ rest))) := by
    simp [chars, delimiter]
  have stop : ∀ c ∈ ('$' :: (body ++ (delimiter tag ++ rest))).head?, Text.isWord c = false := by
    simp only [List.head?_cons, Option.mem_some_iff, forall_eq']
    decide
  have read : dollarQuoted? ('$' :: (tag ++ '$' :: (body ++ (delimiter tag ++ rest)))) =
      some (.dollarQuoted tag body, rest) := by
    simp [dollarQuoted?, Text.takeWhile_append_of_stop isTag stop,
      Text.dropWhile_append_of_stop isTag stop, Text.breakAt?_of_closedBy closed]
  rw [opening, special?_dollar, read]
  rfl

theorem special?_dashes (previous : Option Char) (cs : List Char) :
    special? previous ('-' :: '-' :: cs) =
      some (.lineComment (cs.takeWhile isLineBody), cs.dropWhile isLineBody) := by
  simp [special?, quoted?, dollarQuoted?, lineComment?]

theorem special?_lineComment {body : List Char} (wellFormed : (lineComment body).WellFormed)
    (ends : (lineComment body).EndsBefore rest.head?) :
    special? previous ((lineComment body).chars ++ rest) = some (.lineComment body, rest) := by
  rw [chars, List.cons_append, List.cons_append, special?_dashes,
    Text.takeWhile_append_of_stop wellFormed ends, Text.dropWhile_append_of_stop wellFormed ends]

theorem special?_blockComment {body : List Char} (wellFormed : (blockComment body).WellFormed) :
    special? previous ((blockComment body).chars ++ rest) = some (.blockComment body, rest) := by
  have read : Text.breakAt? ['*', '/'] (body ++ '*' :: '/' :: rest) = some (body, rest) :=
    Text.breakAt?_of_closedBy wellFormed rest
  simp [special?, chars, quoted?, dollarQuoted?, lineComment?, blockComment?, read]

theorem special?_cast {word : List Char} (wellFormed : (cast word).WellFormed)
    (ends : (cast word).EndsBefore rest.head?) :
    special? previous ((cast word).chars ++ rest) = some (.cast word, rest) := by
  obtain ⟨nonempty, isWord⟩ := wellFormed
  obtain ⟨c, word, rfl⟩ := List.exists_cons_of_ne_nil nonempty
  obtain ⟨first, isWord⟩ := List.forall_mem_cons.mp isWord
  simp [special?_colon, chars, cast?, first, Text.takeWhile_append_of_stop isWord ends,
    Text.dropWhile_append_of_stop isWord ends]

theorem special?_bind {name : List Char} (named : isName name)
    (starts : (Piece.bind name).StartsAfter previous) (colon : previous ≠ some ':')
    (ends : (Piece.bind name).EndsBefore rest.head?) :
    special? previous ((Piece.bind name).chars ++ rest) = some (.bind name, rest) := by
  have allowed : allowsBind previous = true := by
    cases previous with
    | none => rfl
    | some c =>
      have word := starts c rfl
      have other : c ≠ ':' := by simpa using colon
      simp [allowsBind, word, other]
  have noCast : cast? (':' :: (name ++ rest)) = none := by
    obtain ⟨c, word, rfl, start, -⟩ := isName_iff.mp named
    have other : c ≠ ':' := by
      rintro rfl
      exact absurd start (by decide)
    simp [cast?, other]
  simp [special?_colon, chars, noCast, bind?, allowed, name?_of_isName named ends]

-- A second dollar sign behind the name would make it the tag of a quoted text.
theorem special?_direct {name : List Char} (named : isName name)
    (ends : (Piece.direct name).EndsBefore rest.head?) :
    special? previous ((Piece.direct name).chars ++ rest) = some (.direct name, rest) := by
  have stop : ∀ c ∈ rest.head?, Text.isWord c = false := fun c first => (ends c first).1
  have noDollarQuoted : dollarQuoted? ('$' :: (name ++ rest)) = none := by
    have after := Text.dropWhile_append_of_stop (isWord_of_isName named) stop
    simp only [dollarQuoted?, after]
    cases rest with
    | nil => rfl
    | cons c rest =>
      have other : c ≠ '$' := (ends c rfl).2
      simp [other]
  simp [special?_dollar, chars, noDollarQuoted, direct?, name?_of_isName named stop]

theorem special?_chars {p : Piece} (special : ∀ c, p ≠ .plain c) (wellFormed : p.WellFormed)
    (starts : p.StartsAfter previous) (ends : p.EndsBefore rest.head?)
    (colon : previous = some ':' → (p.chars ++ rest).head? ≠ some ':') :
    special? previous (p.chars ++ rest) = some (p, rest) := by
  cases p with
  | plain c => exact absurd rfl (special c)
  | quoted mark body => exact special?_quoted wellFormed
  | dollarQuoted tag body => exact special?_dollarQuoted wellFormed
  | lineComment body => exact special?_lineComment wellFormed ends
  | blockComment body => exact special?_blockComment wellFormed
  | cast word => exact special?_cast wellFormed ends
  | bind name => exact special?_bind wellFormed starts (fun same => colon same rfl) ends
  | direct name => exact special?_direct wellFormed ends

end Recognised

section Scanned

variable {previous : Option Char} {p : Piece}

theorem scan_of_special? {cs rest : List Char} (found : special? previous cs = some (p, rest)) :
    scan previous cs = p :: scan p.chars.getLast? rest := by
  cases cs with
  | nil => cases found
  | cons c cs =>
    rw [scan]
    split
    next p' rest' found' =>
      rw [found, Option.some.injEq, Prod.mk.injEq] at found'
      obtain ⟨rfl, rfl⟩ := found'
      rfl
    next unfound => simp [found] at unfound

theorem scan_of_unfound {c : Char} {cs : List Char} (unfound : special? previous (c :: cs) = none) :
    scan previous (c :: cs) = .plain c :: scan (some c) cs := by
  rw [scan]
  split
  next p rest found => simp [unfound] at found
  next => rfl

theorem scan_of_startsPlain {c : Char} (plain : startsPlain c) (cs : List Char) :
    scan previous (c :: cs) = .plain c :: scan (some c) cs :=
  scan_of_unfound (special?_of_startsPlain plain)

theorem getLast?_append_ne_colon (front : List Char) {word : List Char} (nonempty : word ≠ [])
    (isWord : ∀ c ∈ word, Text.isWord c) : (front ++ word).getLast? ≠ some ':' := by
  rw [List.getLast?_append_of_ne_nil _ nonempty]
  intro last
  exact absurd (isWord ':' (List.mem_of_getLast? last)) (by decide)

-- Only a line comment can end in a colon, and no colon follows it.
theorem ne_colon_of_getLast? {next : Option Char} (wellFormed : p.WellFormed)
    (ends : p.EndsBefore next) (last : p.chars.getLast? = some ':') : next ≠ some ':' := by
  cases p with
  | plain c =>
    cases last
    have plain : startsPlain ':' = true := wellFormed
    exact absurd plain (by decide)
  | quoted mark body =>
    have same : mark = ':' := by simpa [chars, List.getLast?_cons] using last
    subst same
    exact absurd wellFormed.1 (by decide)
  | dollarQuoted tag body => simp [chars, delimiter, List.getLast?_cons] at last
  | lineComment body =>
    rintro rfl
    exact absurd (ends ':' rfl) (by decide)
  | blockComment body => simp [chars, List.getLast?_cons] at last
  | cast word =>
    obtain ⟨nonempty, isWord⟩ := wellFormed
    exact absurd last (getLast?_append_ne_colon [':', ':'] nonempty isWord)
  | bind name =>
    exact absurd last (getLast?_append_ne_colon [':'] (ne_nil_of_isName wellFormed)
      (isWord_of_isName wellFormed))
  | direct name =>
    exact absurd last (getLast?_append_ne_colon ['$'] (ne_nil_of_isName wellFormed)
      (isWord_of_isName wellFormed))

theorem scan_text {pieces : List Piece} (separate : Separate previous pieces)
    (colon : previous = some ':' → (text pieces).head? ≠ some ':') :
    scan previous (text pieces) = pieces := by
  induction pieces generalizing previous with
  | nil => rw [text_nil, scan]
  | cons p rest ih =>
    obtain ⟨wellFormed, starts, ends, separate⟩ := separate
    have later := ih separate (ne_colon_of_getLast? wellFormed ends)
    rw [text_cons]
    by_cases isPlain : ∃ c, p = .plain c
    · obtain ⟨c, rfl⟩ := isPlain
      exact (scan_of_startsPlain wellFormed _).trans (congrArg _ later)
    · have special : ∀ c, p ≠ .plain c := fun c same => isPlain ⟨c, same⟩
      rw [scan_of_special? (special?_chars special wellFormed starts ends colon), later]

theorem ofText_text {pieces : List Piece} (separate : Separate none pieces) :
    ofText (String.ofList (text pieces)) = pieces := by
  rw [ofText, String.toList_ofList]
  apply scan_text separate
  intro colon
  cases colon

-- Plain characters that could start another piece are plain for what comes behind them.
def isFound (previous : Option Char) : List Piece → Bool
  | [] => true
  | .plain c :: rest => (special? previous (c :: text rest)).isNone && isFound (some c) rest
  | p :: rest =>
    special? previous (p.chars ++ text rest) == some (p, text rest) && isFound p.chars.getLast? rest

theorem scan_of_isFound {pieces : List Piece} (found : isFound previous pieces) :
    scan previous (text pieces) = pieces := by
  fun_induction isFound previous pieces with
  | case1 => rw [text_nil, scan]
  | case2 previous c rest ih =>
    obtain ⟨unfound, found⟩ := Bool.and_eq_true_iff.mp found
    rw [Option.isNone_iff_eq_none] at unfound
    rw [text_cons, chars, List.singleton_append, scan_of_unfound unfound, ih found]
  | case3 previous p rest _ ih =>
    obtain ⟨here, found⟩ := Bool.and_eq_true_iff.mp found
    rw [text_cons, scan_of_special? (eq_of_beq here), ih found]

theorem ofText_of_isFound {sql : String} {pieces : List Piece} (written : sql.toList = text pieces)
    (found : isFound none pieces) : ofText sql = pieces := by
  rw [ofText, written, scan_of_isFound found]

end Scanned

end Piece

namespace MarkedText

/-- The names that are read are those of the pieces that the text was written from. -/
theorem names_of_separate (style : MarkerStyle) {pieces : List Piece}
    (separate : Piece.Separate none pieces) :
    let sql := String.ofList (Piece.text pieces)
    Piece.ofText sql = pieces ∧
      (ofText style sql).bindNames = pieces.filterMap Piece.bindName? ∧
      (ofText style sql).directNames = pieces.filterMap Piece.directName? := by
  intro sql
  have read : Piece.ofText sql = pieces := Piece.ofText_text separate
  have names := names_ofText style sql
  rw [read] at names
  exact ⟨read, names⟩

def everyPiece : List Piece :=
  [.plain '1', .plain ' ', .quoted '\'' ['\\', '\'', ':', 'n'], .cast ['i', 'n', 't'], .plain ',',
    .bind ['a'], .dollarQuoted ['t'] [' ', '$', 't', ' ', ':', 'n'], .quoted '"' ['$', 'n'],
    .blockComment ['/', '*', ':', 'n'], .direct ['x'], .lineComment ['-', ':'], .plain '\n',
    .bind ['a']]

theorem names_everyPiece :
    Piece.Separate none everyPiece ∧
      let t := ofText .percent (String.ofList (Piece.text everyPiece))
      t.bindNames = ["a", "a"] ∧ t.directNames = ["x"] := by
  have separate : Piece.Separate none everyPiece := by decide
  exact ⟨separate, (names_of_separate .percent separate).2⟩

end MarkedText

end QueryBook
