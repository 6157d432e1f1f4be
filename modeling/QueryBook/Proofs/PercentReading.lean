import QueryBook.Proofs.Cuts
import QueryBook.Proofs.Printing

set_option autoImplicit false

namespace QueryBook

abbrev Reading :=
  Option (List Char × List (List Char))

namespace Reading

def after (cs : List Char) (reading : Reading) : Reading :=
  reading.map fun (read, left) => (cs ++ read, left)

@[simp] theorem after_some (cs read : List Char) (left : List (List Char)) :
    after cs (some (read, left)) = some (cs ++ read, left) := rfl

@[simp] theorem after_nil (reading : Reading) : after [] reading = reading := by
  cases reading <;> rfl

@[simp] theorem after_after (cs ds : List Char) (reading : Reading) :
    after cs (after ds reading) = after (cs ++ ds) reading := by
  cases reading <;> simp [after]

end Reading

-- `%%` is a percent sign, `%s` is the next parameter, and any other percent sign is an error.
def readPercent : List Char → List (List Char) → Reading
  | [], params => some ([], params)
  | '%' :: '%' :: rest, params => (readPercent rest params).after ['%']
  | '%' :: 's' :: rest, param :: params => (readPercent rest params).after param
  | '%' :: _, _ => none
  | c :: rest, params => (readPercent rest params).after [c]

-- The rest may start with anything: an escaped percent sign is closed in itself.
theorem readPercent_escape (cs rest : List Char) (params : List (List Char)) :
    readPercent (MarkerStyle.percent.escape cs ++ rest) params =
      (readPercent rest params).after cs := by
  induction cs with
  | nil => simp
  | cons c cs ih =>
    have first : MarkerStyle.percent.escape (c :: cs) =
        (if c = '%' then ['%', '%'] else [c]) ++ MarkerStyle.percent.escape cs := rfl
    rw [first]
    by_cases percent : c = '%'
    · simp [percent, readPercent, ih]
    · simp [percent, readPercent, ih]

theorem readPercent_marker (position : Int) (rest param : List Char) (params : List (List Char)) :
    readPercent ((MarkerStyle.percent.marker position).toList ++ rest) (param :: params) =
      (readPercent rest params).after param := by
  have same : MarkerStyle.percent.marker position = "%s" := rfl
  simp [same, readPercent]

theorem Cut.readPercent_fillAfter (rest : List (Placeholder × List Char)) (position : Nat)
    (values params : List (List Char))
    (enoughValues : values.length = (directNames ⟨[], rest⟩).length)
    (enoughParams : params.length = (bindNames ⟨[], rest⟩).length) :
    readPercent (fillAfter MarkerStyle.percent.escape rest
        (MarkerStyle.percent.markers position params.length)
        (values.map MarkerStyle.percent.escape)) params =
      some (fillAfter id rest params values, []) := by
  induction rest generalizing position values params with
  | nil =>
    have none : params = [] := by simpa [bindNames] using enoughParams
    simp [fillAfter, readPercent, none]
  | cons head rest ih =>
    obtain ⟨placeholder, between⟩ := head
    cases placeholder with
    | bind name =>
      cases params with
      | nil => simp [bindNames, Placeholder.bindName?] at enoughParams
      | cons param params =>
        have later := ih (position + 1) values params enoughValues (Nat.succ.inj enoughParams)
        simp [fillAfter, MarkerStyle.markers_succ, readPercent_marker, readPercent_escape, later]
    | direct name =>
      cases values with
      | nil => simp [directNames, Placeholder.directName?] at enoughValues
      | cons value values =>
        have later := ih position values params (Nat.succ.inj enoughValues) enoughParams
        simp [fillAfter, readPercent_escape, later]

namespace MarkedText

/-- A driver that wants percent signs reads a rendered text back, with its parameters in place. -/
theorem readPercent_render (sql : String) {values params : List String}
    (enoughValues : values.length = (ofText .percent sql).directNames.length)
    (enoughParams : params.length = (ofText .percent sql).bindNames.length) :
    let cut := Cut.ofText sql
    cut.text = sql.toList ∧ cut.bindNames = (ofText .percent sql).bindNames ∧
    cut.directNames = (ofText .percent sql).directNames ∧
    ∃ text, (ofText .percent sql).render values = .ok text ∧
      readPercent text.toList (params.map String.toList) =
        some (cut.fill id (params.map String.toList) (values.map String.toList), []) := by
  intro cut
  refine ⟨Cut.text_ofText sql, (bindNames_ofText .percent sql).symm,
    (directNames_ofText .percent sql).symm, ?_⟩
  rw [directNames_ofText] at enoughValues
  rw [bindNames_ofText] at enoughParams
  refine ⟨_, render_ofText .percent sql enoughValues, ?_⟩
  have later := Cut.readPercent_fillAfter cut.rest 1 (values.map String.toList)
    (params.map String.toList) (by rwa [List.length_map]) (by rwa [List.length_map])
  rw [List.map_map, List.length_map, enoughParams] at later
  rw [String.toList_ofList, Cut.fill, readPercent_escape]
  exact congrArg (Reading.after cut.first) later

-- Percent signs in a string, before a marker, at the end of a value, and in a comment.
def percentSigns : List Piece :=
  [.quoted '\'' ['5', '%', 's'], .plain '%', .bind ['n'], .plain '%', .direct ['t'],
    .lineComment ['%']]

theorem readPercent_percentSigns :
    let sql := String.ofList (Piece.text percentSigns)
    ["9%"].length = (ofText .percent sql).directNames.length ∧
    ["%s"].length = (ofText .percent sql).bindNames.length ∧
    ∃ text, (ofText .percent sql).render ["9%"] = .ok text ∧
      readPercent text.toList [['%', 's']] = some ("'5%s'%%s%9%--%".toList, []) := by
  intro sql
  have read : Piece.ofText sql = percentSigns := Piece.ofText_text (by decide)
  have names := names_ofText .percent sql
  rw [read] at names
  have directs : ["9%"].length = (ofText .percent sql).directNames.length := by rw [names.2]; rfl
  have binds : ["%s"].length = (ofText .percent sql).bindNames.length := by rw [names.1]; rfl
  obtain ⟨-, -, -, text, rendered, meant⟩ := readPercent_render sql directs binds
  rw [Cut.ofText, read] at meant
  exact ⟨directs, binds, text, rendered, meant⟩

end MarkedText

end QueryBook
