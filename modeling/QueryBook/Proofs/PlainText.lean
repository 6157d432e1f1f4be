import QueryBook.MarkedText
import QueryBook.Template.Blocks

set_option autoImplicit false

namespace QueryBook

namespace Template

theorem afterLineBreak?_of_line {cs : List Char} (line : '\n' ∉ cs) :
    afterLineBreak? cs = none := by
  unfold afterLineBreak?
  split
  next rest same =>
    have suffix := List.dropWhile_suffix isLineBlank (l := cs)
    rw [same] at suffix
    exact absurd (suffix.subset (by simp)) line
  next => rfl

theorem lineBreaks_of_line {cs : List Char} (line : '\n' ∉ cs) : lineBreaks cs = (0, cs) := by
  rw [lineBreaks]
  split
  next rest found => simp [afterLineBreak?_of_line line] at found
  next => rfl

theorem cut_of_line {cs : List Char} (line : '\n' ∉ cs) : cut cs = (cs, []) := by
  induction cs with
  | nil => rw [cut]
  | cons c cs ih =>
    rw [cut]
    split
    next rest found => simp [afterGap?, lineBreaks_of_line line] at found
    next => simp [ih fun member => line (List.mem_cons_of_mem c member)]

theorem afterComments_of_start {cs : List Char}
    (start : ∀ c ∈ cs.head?, ¬ Text.isBlank c ∧ c ≠ '-' ∧ c ≠ '/') : afterComments cs = cs := by
  cases cs with
  | nil => rw [afterComments]
  | cons c cs =>
    obtain ⟨text, dash, slash⟩ := start c rfl
    rw [afterComments, if_neg text]
    split
    next rest found =>
      unfold afterComment? at found
      split at found <;> simp_all
    next => rfl

theorem statements_of_line {body : String} (line : '\n' ∉ body.toList)
    (start : body.toList.head?.all fun c => !Text.isBlank c && c != '-' && c != '/') :
    statements body =
      ([withoutSemicolon (Text.trim body.toList)].filter (· ≠ [])).map String.ofList := by
  have start : ∀ c ∈ body.toList.head?, ¬ Text.isBlank c ∧ c ≠ '-' ∧ c ≠ '/' := by
    intro c first
    rw [Option.mem_def.mp first] at start
    simpa [and_assoc] using start
  simp only [statements, blocks, cut_of_line line, List.map, blockText,
    afterComments_of_start start]

end Template

namespace Piece

def startsPlain (c : Char) : Bool :=
  !(['"', '\'', '$', '-', '/', ':'].contains c)

theorem special?_of_startsPlain {previous : Option Char} {c : Char} {cs : List Char}
    (plain : startsPlain c = true) : special? previous (c :: cs) = none := by
  simp only [startsPlain, List.contains_eq_mem, List.mem_cons, List.not_mem_nil, or_false,
    Bool.not_eq_eq_eq_not, Bool.not_true, decide_eq_false_iff_not, not_or] at plain
  obtain ⟨quote, mark, dollar, dash, slash, colon⟩ := plain
  have noDollarQuoted : dollarQuoted? (c :: cs) = none := by
    unfold dollarQuoted?
    split <;> simp_all
  have noLineComment : lineComment? (c :: cs) = none := by
    unfold lineComment?
    split <;> simp_all
  have noBlockComment : blockComment? (c :: cs) = none := by
    unfold blockComment?
    split <;> simp_all
  have noCast : cast? (c :: cs) = none := by
    unfold cast?
    split <;> simp_all
  have noBind : bind? previous (c :: cs) = none := by
    unfold bind?
    split <;> simp_all
  have noDirect : direct? (c :: cs) = none := by
    unfold direct?
    split <;> simp_all
  simp [special?, quoted?, quote, mark, noDollarQuoted, noLineComment, noBlockComment, noCast,
    noBind, noDirect]

theorem scan_of_plain {previous : Option Char} {cs : List Char}
    (plain : ∀ c ∈ cs, startsPlain c = true) : scan previous cs = cs.map .plain := by
  induction cs generalizing previous with
  | nil => rw [scan, List.map_nil]
  | cons c cs ih =>
    rw [scan]
    split
    next p rest found => simp [special?_of_startsPlain (plain c (by simp))] at found
    next => simp [ih fun other member => plain other (List.mem_cons_of_mem c member)]

end Piece

theorem MarkedText.bindNames_of_plain {style : MarkerStyle} {sql : String}
    (plain : sql.toList.all Piece.startsPlain = true) : (ofText style sql).bindNames = [] := by
  rw [(names_ofText style sql).1, Piece.ofText, Piece.scan_of_plain (List.all_eq_true.mp plain)]
  simp [Piece.bindName?]

theorem MarkedText.needsSubstitution_of_plain {style : MarkerStyle} {sql : String}
    (plain : sql.toList.all Piece.startsPlain = true) :
    (ofText style sql).needsSubstitution = false := by
  have none : (ofText style sql).directNames = [] := by
    rw [(names_ofText style sql).2, Piece.ofText, Piece.scan_of_plain (List.all_eq_true.mp plain)]
    simp [Piece.directName?]
  simpa [needsSubstitution, directNames] using none

end QueryBook
