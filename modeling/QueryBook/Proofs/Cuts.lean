import QueryBook.Proofs.Replacing
import Mathlib.Data.List.Basic

set_option autoImplicit false

namespace QueryBook

inductive Placeholder where
  | bind (name : String)
  | direct (name : String)
  deriving DecidableEq, Repr

namespace Placeholder

def chars : Placeholder → List Char
  | .bind name => ':' :: name.toList
  | .direct name => '$' :: name.toList

def bindName? : Placeholder → Option String
  | .bind name => some name
  | .direct _ => none

def directName? : Placeholder → Option String
  | .bind _ => none
  | .direct name => some name

end Placeholder

-- What stands before the first placeholder of a text, and every placeholder with what stands
-- between it and the next one.
structure Cut where
  first : List Char
  rest : List (Placeholder × List Char)
  deriving DecidableEq, Repr

namespace Cut

def text (cut : Cut) : List Char :=
  cut.first ++ cut.rest.flatMap fun (placeholder, between) => placeholder.chars ++ between

def bindNames (cut : Cut) : List String :=
  cut.rest.filterMap (·.1.bindName?)

def directNames (cut : Cut) : List String :=
  cut.rest.filterMap (·.1.directName?)

def laidAfter (literal : List Char → List Char) :
    List (Placeholder × List Char) → List (List Char) → List Char × List (List Char)
  | [], _ => ([], [])
  | (.bind _, between) :: rest, binds =>
    let (head, tail) := laidAfter literal rest binds.tail
    (binds.headD [] ++ literal between ++ head, tail)
  | (.direct _, between) :: rest, binds =>
    let (head, tail) := laidAfter literal rest binds
    ([], (literal between ++ head) :: tail)

-- The text up to the first direct, and what stands after every direct. One text after another takes
-- the place of the binds; what is no placeholder is written as `literal` does it.
def laid (cut : Cut) (literal : List Char → List Char) (binds : List (List Char)) :
    List Char × List (List Char) :=
  let (head, tail) := laidAfter literal cut.rest binds
  (literal cut.first ++ head, tail)

def segments (cut : Cut) (literal : List Char → List Char) (binds : List (List Char)) :
    List (List Char) :=
  (cut.laid literal binds).1 :: (cut.laid literal binds).2

def fillAfter (literal : List Char → List Char) :
    List (Placeholder × List Char) → List (List Char) → List (List Char) → List Char
  | [], _, _ => []
  | (.bind _, between) :: rest, binds, directs =>
    binds.headD [] ++ literal between ++ fillAfter literal rest binds.tail directs
  | (.direct _, between) :: rest, binds, directs =>
    directs.headD [] ++ literal between ++ fillAfter literal rest binds directs.tail

def fill (cut : Cut) (literal : List Char → List Char) (binds directs : List (List Char)) :
    List Char :=
  literal cut.first ++ fillAfter literal cut.rest binds directs

theorem fill_eq_laid (cut : Cut) (literal : List Char → List Char) (binds : List (List Char))
    {directs : List (List Char)} (enough : directs.length = cut.directNames.length) :
    cut.fill literal binds directs = (cut.laid literal binds).1 ++
      (directs.zip (cut.laid literal binds).2).flatMap fun (inserted, segment) =>
        inserted ++ segment := by
  obtain ⟨first, rest⟩ := cut
  simp only [fill, laid, List.append_assoc, List.append_cancel_left_eq]
  induction rest generalizing binds directs with
  | nil => simp [fillAfter, laidAfter]
  | cons head rest ih =>
    obtain ⟨placeholder, between⟩ := head
    cases placeholder with
    | bind name => simp [fillAfter, laidAfter, ih binds.tail enough]
    | direct name =>
      cases directs with
      | nil => simp [directNames, Placeholder.directName?] at enough
      | cons inserted directs => simp [fillAfter, laidAfter, ih binds (Nat.succ.inj enough)]

def prepend (cs : List Char) (cut : Cut) : Cut :=
  ⟨cs ++ cut.first, cut.rest⟩

def after (placeholder : Placeholder) (cut : Cut) : Cut :=
  ⟨[], (placeholder, cut.first) :: cut.rest⟩

section Parts

variable (cut : Cut) (cs : List Char) (placeholder : Placeholder)

@[simp] theorem text_prepend : (cut.prepend cs).text = cs ++ cut.text := by
  simp [prepend, text]

@[simp] theorem text_after : (cut.after placeholder).text = placeholder.chars ++ cut.text := by
  simp [after, text]

@[simp] theorem bindNames_prepend : (cut.prepend cs).bindNames = cut.bindNames := rfl

@[simp] theorem bindNames_after :
    (cut.after placeholder).bindNames = placeholder.bindName?.toList ++ cut.bindNames := by
  cases placeholder <;> rfl

@[simp] theorem directNames_prepend : (cut.prepend cs).directNames = cut.directNames := rfl

@[simp] theorem directNames_after :
    (cut.after placeholder).directNames = placeholder.directName?.toList ++ cut.directNames := by
  cases placeholder <;> rfl

variable (style : MarkerStyle) (binds : List (List Char))

theorem laid_prepend : (cut.prepend cs).laid style.escape binds =
    (style.escape cs ++ (cut.laid style.escape binds).1, (cut.laid style.escape binds).2) := by
  simp [laid, prepend, style.escape_append]

theorem laid_after_bind (name : String) (marker : List Char) :
    (cut.after (.bind name)).laid style.escape (marker :: binds) =
      (marker ++ (cut.laid style.escape binds).1, (cut.laid style.escape binds).2) := by
  simp [laid, after, laidAfter]

theorem laid_after_direct (name : String) : (cut.after (.direct name)).laid style.escape binds =
    ([], (cut.laid style.escape binds).1 :: (cut.laid style.escape binds).2) := by
  simp [laid, after, laidAfter]

end Parts

def ofPieces : List Piece → Cut
  | [] => ⟨[], []⟩
  | .bind name :: rest => (ofPieces rest).after (.bind (String.ofList name))
  | .direct name :: rest => (ofPieces rest).after (.direct (String.ofList name))
  | p :: rest => (ofPieces rest).prepend p.chars

def ofText (sql : String) : Cut :=
  ofPieces (Piece.ofText sql)

theorem text_ofPieces (pieces : List Piece) : (ofPieces pieces).text = Piece.text pieces := by
  induction pieces with
  | nil => rfl
  | cons p rest ih => cases p <;> simp [ofPieces, ih, Placeholder.chars, Piece.chars]

theorem text_ofText (sql : String) : (ofText sql).text = sql.toList := by
  rw [ofText, text_ofPieces, Piece.text_ofText]

theorem bindNames_ofPieces (pieces : List Piece) :
    (ofPieces pieces).bindNames = pieces.filterMap Piece.bindName? := by
  induction pieces with
  | nil => rfl
  | cons p rest ih =>
    cases p <;> simp [ofPieces, ih, Placeholder.bindName?, Piece.bindName?, List.filterMap_cons]

theorem directNames_ofPieces (pieces : List Piece) :
    (ofPieces pieces).directNames = pieces.filterMap Piece.directName? := by
  induction pieces with
  | nil => rfl
  | cons p rest ih =>
    cases p <;> simp [ofPieces, ih, Placeholder.directName?, Piece.directName?, List.filterMap_cons]

end Cut

namespace Piece

theorem allowsBind_of_special? {previous : Option Char} {cs name rest : List Char}
    (found : special? previous cs = some (.bind name, rest)) : allowsBind previous = true := by
  simp only [special?_eq_skipped?, Option.orElse_eq_orElse, Option.orElse_eq_or,
    Option.or_eq_some_iff] at found
  rcases found with found | ⟨-, found | ⟨-, found⟩⟩
  · exact (wellFormed_of_skipped? found).1.elim
  · obtain ⟨_, -, -, allowed, -⟩ := eq_bind_of_bind? found
    exact allowed
  · obtain ⟨_, same⟩ := eq_direct_of_direct? found
    cases same

theorem allowsBind_of_scan {previous : Option Char} {cs name : List Char} {front back : List Piece}
    (scanned : scan previous cs = front ++ .bind name :: back) :
    allowsBind ((text front).getLast?.or previous) = true := by
  fun_induction scan previous cs generalizing front with
  | case1 => simp at scanned
  | case2 previous c cs p rest found _ ih =>
    cases front with
    | nil =>
      obtain ⟨rfl, -⟩ := List.cons.inj scanned
      exact allowsBind_of_special? found
    | cons q front =>
      obtain ⟨rfl, later⟩ := List.cons.inj scanned
      have allowed := ih later
      obtain ⟨last, same⟩ := Option.isSome_iff_exists.mp (List.getLast?_isSome.mpr p.chars_ne_nil)
      rw [same] at allowed
      simpa [List.getLast?_append, same] using allowed
  | case3 previous c cs _ ih =>
    cases front with
    | nil => cases scanned
    | cons q front =>
      obtain ⟨rfl, later⟩ := List.cons.inj scanned
      simpa [List.getLast?_append, List.getLast?_cons, chars] using ih later

end Piece

namespace Cut

variable {before after : List (Placeholder × List Char)} {name : String} {between : List Char}

theorem exists_front_of_rest {pieces : List Piece}
    (split : (ofPieces pieces).rest = before ++ (.bind name, between) :: after) :
    ∃ front name back, pieces = front ++ .bind name :: back ∧
      Piece.text front = Cut.text ⟨(ofPieces pieces).first, before⟩ := by
  induction pieces generalizing before with
  | nil => simp [ofPieces] at split
  | cons p rest ih =>
    have further {before' : List (Placeholder × List Char)}
        (later : (ofPieces rest).rest = before' ++ (.bind name, between) :: after)
        (whole : Cut.text ⟨(ofPieces (p :: rest)).first, before⟩ =
          p.chars ++ Cut.text ⟨(ofPieces rest).first, before'⟩) :
        ∃ front name back, p :: rest = front ++ .bind name :: back ∧
          Piece.text front = Cut.text ⟨(ofPieces (p :: rest)).first, before⟩ := by
      obtain ⟨front, name, back, same, texts⟩ := ih later
      refine ⟨p :: front, name, back, ?_, ?_⟩
      · rw [same, List.cons_append]
      · rw [Piece.text_cons, texts, whole]
    cases p with
    | bind name' =>
      rcases List.cons_eq_append_iff.mp split with ⟨rfl, -⟩ | ⟨before', rfl, later⟩
      · exact ⟨[], name', rest, rfl, rfl⟩
      · exact further later (by simp [ofPieces, Cut.after, text, Placeholder.chars, Piece.chars])
    | direct name' =>
      rcases List.cons_eq_append_iff.mp split with ⟨rfl, other⟩ | ⟨before', rfl, later⟩
      · simp at other
      · exact further later (by simp [ofPieces, Cut.after, text, Placeholder.chars, Piece.chars])
    | _ => exact further split (by simp [ofPieces, prepend, text])

theorem not_bind_after_colon {sql : String}
    (split : (ofText sql).rest = before ++ (.bind name, between) :: after) :
    ∀ c ∈ (Cut.text ⟨(ofText sql).first, before⟩).getLast?, Text.isWord c = false ∧ c ≠ ':' := by
  obtain ⟨front, name, back, scanned, same⟩ := exists_front_of_rest split
  have allowed := Piece.allowsBind_of_scan scanned
  rw [Option.or_none, same] at allowed
  intro c last
  change Piece.allowsBind (Cut.text ⟨(ofText sql).first, before⟩).getLast? = true at allowed
  rw [Option.mem_def.mp last] at allowed
  simpa [Piece.allowsBind] using allowed

end Cut

namespace MarkerStyle

def markers (style : MarkerStyle) (position count : Nat) : List (List Char) :=
  (List.range' position count).map fun k => (style.marker k).toList

theorem markers_succ (style : MarkerStyle) (position count : Nat) :
    style.markers position (count + 1) =
      (style.marker position).toList :: style.markers (position + 1) count := by
  simp [markers, List.range'_succ]

end MarkerStyle

namespace MarkedText

theorem layOut_eq_laid (style : MarkerStyle) (position : Nat) (pieces : List Piece) :
    ((layOut style position pieces).1, (layOut style position pieces).2.map (·.2)) =
      (Cut.ofPieces pieces).laid style.escape
        (style.markers position (Cut.ofPieces pieces).bindNames.length) := by
  induction pieces generalizing position with
  | nil => simp [layOut, Cut.ofPieces, Cut.laid, Cut.laidAfter]
  | cons p rest ih =>
    cases p with
    | bind name =>
      simp [layOut, Cut.ofPieces, Placeholder.bindName?, style.markers_succ, Cut.laid_after_bind,
        ← ih]
    | direct name =>
      simp [layOut, Cut.ofPieces, Placeholder.bindName?, Cut.laid_after_direct, ← ih]
    | _ => simp [layOut, Cut.ofPieces, Cut.laid_prepend, ← ih]

theorem toList_splice (head : String) (tail : List (String × String)) :
    (splice head tail).toList =
      head.toList ++ tail.flatMap fun (inserted, segment) => inserted.toList ++ segment.toList := by
  simp [splice, String.toList_join, List.flatMap_map]

-- The check of the number of segments never fails on the parts of a marked text.
theorem ofParts_parts (t : MarkedText) :
    ofParts t.style t.segments t.bindNames t.directNames = .ok t := by
  simp [ofParts, segments, directNames, List.zip_map']

section OfText

variable (style : MarkerStyle) (sql : String)

def laidText : List Char × List (List Char) :=
  (Cut.ofText sql).laid style.escape (style.markers 1 (Cut.ofText sql).bindNames.length)

theorem head_ofText : (ofText style sql).head = String.ofList (laidText style sql).1 := by
  simp [laidText, Cut.ofText, ← layOut_eq_laid, ofText, ofPieces]

theorem tail_ofText :
    (ofText style sql).tail.map (·.2) = (laidText style sql).2.map String.ofList := by
  simp [laidText, Cut.ofText, ← layOut_eq_laid, ofText, ofPieces]

theorem bindNames_ofText : (ofText style sql).bindNames = (Cut.ofText sql).bindNames := by
  rw [(names_ofText style sql).1, Cut.ofText, Cut.bindNames_ofPieces]

theorem directNames_ofText : (ofText style sql).directNames = (Cut.ofText sql).directNames := by
  rw [(names_ofText style sql).2, Cut.ofText, Cut.directNames_ofPieces]

theorem toList_splice_ofText {inserted : List String}
    (enough : inserted.length = (Cut.ofText sql).directNames.length) :
    (splice (ofText style sql).head (inserted.zip ((ofText style sql).tail.map (·.2)))).toList =
      (Cut.ofText sql).fill style.escape (style.markers 1 (Cut.ofText sql).bindNames.length)
        (inserted.map String.toList) := by
  rw [Cut.fill_eq_laid _ _ _ (by rwa [List.length_map]), head_ofText, tail_ofText, toList_splice]
  simp [laidText, List.zip_map_left, List.zip_map_right, List.flatMap_map]

theorem sql_ofText : (ofText style sql).sql.toList =
    (Cut.ofText sql).fill style.escape (style.markers 1 (Cut.ofText sql).bindNames.length)
      ((Cut.ofText sql).directNames.map fun name => '$' :: name.toList) := by
  have zipped : (ofText style sql).tail.map (fun (name, segment) => ("$" ++ name, segment)) =
      ((Cut.ofText sql).directNames.map ("$" ++ ·)).zip ((ofText style sql).tail.map (·.2)) := by
    rw [← directNames_ofText style, directNames, List.map_map, List.zip_map']
    rfl
  rw [MarkedText.sql, zipped, toList_splice_ofText style sql (by simp), List.map_map]
  congr 2
  funext name
  simp

theorem render_ofText {values : List String}
    (enough : values.length = (Cut.ofText sql).directNames.length) :
    (ofText style sql).render values = .ok (String.ofList
      ((Cut.ofText sql).fill style.escape (style.markers 1 (Cut.ofText sql).bindNames.length)
        (values.map fun value => style.escape value.toList))) := by
  have styled : (ofText style sql).style = style := rfl
  rw [render_eq_ok_iff, directNames_ofText, ← String.toList_inj, fill, styled,
    toList_splice_ofText style sql (by simpa using enough), String.toList_ofList, List.map_map]
  refine ⟨enough, ?_⟩
  congr 2
  funext value
  simp [MarkerStyle.escapeText]

end OfText

/-- Whatever the text is, it is cut at its placeholders, and nothing else of it is changed but for the
escapes of the style. -/
theorem ofText_cut (style : MarkerStyle) (sql : String) :
    let cut := Cut.ofText sql
    let markers := style.markers 1 cut.bindNames.length
    let t := ofText style sql
    cut.text = sql.toList ∧
    (∀ before name between after, cut.rest = before ++ (.bind name, between) :: after →
      ∀ c ∈ (Cut.text ⟨cut.first, before⟩).getLast?, Text.isWord c = false ∧ c ≠ ':') ∧
    t.bindNames = cut.bindNames ∧ t.directNames = cut.directNames ∧
    t.segments = (cut.segments style.escape markers).map String.ofList ∧
    ofParts style t.segments t.bindNames t.directNames = .ok t ∧
    t.sql.toList =
      cut.fill style.escape markers (cut.directNames.map fun name => '$' :: name.toList) ∧
    ∀ values, values.length = t.directNames.length → t.render values = .ok (String.ofList
      (cut.fill style.escape markers (values.map fun value => style.escape value.toList))) := by
  intro cut markers t
  refine ⟨Cut.text_ofText sql, fun _ _ _ _ split => Cut.not_bind_after_colon split,
    bindNames_ofText style sql, directNames_ofText style sql, ?_, ofParts_parts t,
    sql_ofText style sql, ?_⟩
  · rw [segments, head_ofText, tail_ofText]
    rfl
  · intro values enough
    exact render_ofText style sql ((directNames_ofText style sql) ▸ enough)

end MarkedText

end QueryBook
