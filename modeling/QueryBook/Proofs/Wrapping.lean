import QueryBook.Proofs.Merging

set_option autoImplicit false

namespace QueryBook

namespace Data

variable {data : Fields} {key : String} {value : Value}

def wrapped (data : Fields) : Fields :=
  data.map fun entry => (entry.1, .list [entry.2])

@[simp] theorem get?_wrapped (data : Fields) (key : String) :
    (wrapped data).get? key = (data.get? key).map fun value => .list [value] := by
  induction data with
  | nil => rfl
  | cons entry rest ih =>
    simp only [wrapped] at ih
    by_cases here : entry.1 = key <;> simp [wrapped, Keyed.get?, here, ih]

theorem wrapped_put (data : Fields) (key : String) (value : Value) :
    wrapped (data.put key value) = (wrapped data).put key (.list [value]) := by
  induction data with
  | nil => rfl
  | cons entry rest ih =>
    simp only [wrapped] at ih
    by_cases here : entry.1 = key <;> simp [wrapped, Keyed.put, here, ih]

def NonNull (data : Fields) : Prop :=
  ∀ key, data.get? key ≠ some .null

theorem NonNull.put (nonNull : NonNull data) (different : value ≠ .null) :
    NonNull (data.put key value) := by
  intro other
  rw [Keyed.get?_put]
  split
  · exact fun same => different (Option.some.inj same)
  · exact nonNull other

end Data

namespace Placement

open Data

variable {data d row : Fields} {held : Option Value} {label : String} {value : Value}

theorem resolve_wrapped (data : Fields) (key : String) :
    arrays.resolve (wrapped data) key = plain.resolve data key := by
  simp only [resolve, get?_wrapped]
  cases data.get? key <;> rfl

theorem resolveText_wrapped (data : Fields) (key : String) :
    arrays.resolveText (wrapped data) key = plain.resolveText data key := by
  simp only [resolveText, resolve_wrapped]

-- Only on null do the placements differ: a key that holds it is free, a list that begins with it
-- has no room for fields.
theorem takes_wrapped (nonNull : held ≠ some .null) (fits : plain.takes held label = true) :
    arrays.takes (held.map fun value => .list [value]) label = true := by
  unfold takes at *
  cases held with
  | none => split <;> rfl
  | some value =>
    split
    · rfl
    next named =>
      rw [named] at fits
      cases value with
      | null => exact absurd rfl nonNull
      | record fields => rfl
      | _ => simp [takesField] at fits

theorem written_wrapped (held : Option Value) (label : String) (value : Value) :
    arrays.written (held.map fun value => .list [value]) label value =
      .list [plain.written held label value] := by
  rcases split : splitLabel label with ⟨_ | _, _⟩
  · simp only [written, split]
    cases held <;> rfl
  · simp only [written, split]
    cases held with
    | none => rfl
    | some value => cases value <;> rfl

theorem written_ne_null (different : (splitLabel label).1 = none → value ≠ .null) :
    plain.written held label value ≠ .null := by
  rcases split : splitLabel label with ⟨_ | _, _⟩
  · simpa [written, split, placed] using different (by rw [split])
  · simp [written, split, placed]

def Filled (row : Fields) : Prop :=
  ∀ column ∈ row, (splitLabel column.1).1 = none → column.2 ≠ .null

theorem mergeRow_wrapped (nonNull : NonNull data) (filled : Filled row)
    (merged : plain.mergeRow row data = .ok () d) :
    arrays.mergeRow row (wrapped data) = .ok () (wrapped d) ∧ NonNull d := by
  induction row generalizing data with
  | nil =>
    cases merged
    exact ⟨rfl, nonNull⟩
  | cons column rest ih =>
    obtain ⟨label, value⟩ := column
    obtain ⟨here, later⟩ := List.forall_mem_cons.mp filled
    rw [mergeRow_cons_eq_ok_iff] at merged ⊢
    obtain ⟨fits, merged⟩ := merged
    rw [get?_wrapped, written_wrapped, ← wrapped_put]
    obtain ⟨goes_on, ends⟩ := ih (nonNull.put (written_ne_null here)) later merged
    exact ⟨⟨takes_wrapped (nonNull _) fits, goes_on⟩, ends⟩

end Placement

inductive Access where
  | parameter (key : String)
  | text (key : String)
  | row (columns : Fields)

inductive Answer where
  | value (v : Value)
  | text (s : String)
  | merged

structure Visit where
  access : Access
  result : Except Error Answer
  data : Fields

namespace Visit

def Rejects (visit : Visit) : Prop :=
  (∃ columns, visit.access = .row columns) ∧ ∃ e, visit.result = .error e

def wrapped (visit : Visit) : Visit :=
  { visit with data := Data.wrapped visit.data }

end Visit

namespace Placement

open Data

def visit (placement : Placement) (access : Access) (data : Fields) : Visit :=
  match access with
  | .parameter key => ⟨access, (placement.resolve data key).map .value, data⟩
  | .text key => ⟨access, (placement.resolveText data key).map .text, data⟩
  | .row columns =>
    let (result, data) := (placement.mergeRow columns).outcome data
    ⟨access, result.map fun _ => .merged, data⟩

def trace (placement : Placement) : List Access → Fields → List Visit
  | [], _ => []
  | access :: rest, data =>
    let visit := placement.visit access data
    visit :: placement.trace rest visit.data

variable {data : Fields} {accesses : List Access} {access : Access}

theorem visit_wrapped (nonNull : NonNull data)
    (filled : ∀ columns, access = .row columns → Filled columns)
    (accepted : ¬ (plain.visit access data).Rejects) :
    arrays.visit access (wrapped data) = (plain.visit access data).wrapped ∧
      NonNull (plain.visit access data).data := by
  cases access with
  | parameter key => exact ⟨by simp [visit, Visit.wrapped, resolve_wrapped], nonNull⟩
  | text key => exact ⟨by simp [visit, Visit.wrapped, resolveText_wrapped], nonNull⟩
  | row columns =>
    cases merged : plain.mergeRow columns data with
    | error e d =>
      refine absurd ⟨⟨columns, rfl⟩, e, ?_⟩ accepted
      simp [visit, Action.outcome, merged, Except.map]
    | ok _ d =>
      obtain ⟨merged', nonNull'⟩ := mergeRow_wrapped nonNull (filled columns rfl) merged
      simp [visit, Visit.wrapped, Action.outcome, merged, merged', Except.map, nonNull']

/-- As long as the plain placement has taken every row, the placement of arrays gives the same
answers and errors on the values in lists, and holds what the plain placement holds in lists. -/
theorem trace_wrapped (nonNull : NonNull data)
    (filled : ∀ columns, .row columns ∈ accesses → Filled columns) (n : Nat)
    (accepted : ∀ visit ∈ (plain.trace accesses data).take n, ¬ visit.Rejects) :
    (arrays.trace accesses (wrapped data)).take n =
      ((plain.trace accesses data).take n).map Visit.wrapped := by
  induction accesses generalizing data n with
  | nil => simp [trace]
  | cons access rest ih =>
    cases n with
    | zero => rfl
    | succ n =>
      simp only [trace, List.take_succ_cons, List.map_cons, List.forall_mem_cons] at accepted ⊢
      obtain ⟨here, later⟩ := accepted
      obtain ⟨same, nonNull'⟩ := visit_wrapped nonNull
        (fun columns first => filled columns (first ▸ List.mem_cons_self ..)) here
      rw [same]
      exact congrArg _ (ih nonNull' (fun columns member =>
        filled columns (List.mem_cons_of_mem _ member)) n later)

-- Keys that a row makes are read afterwards; the last row is one that no placement has to take.
theorem trace_wrapped_mixed :
    let data : Fields := [("a", .int 1), ("g", .record [("x", .null)])]
    let row : Fields := [("g.y", .null), ("b", .text "two"), ("h.f", .int 3)]
    let accesses : List Access :=
      [.parameter "g", .row row, .text "b", .parameter "h", .row [("g", .int 5)]]
    NonNull data ∧ (∀ columns, .row columns ∈ accesses → Filled columns) ∧
    (∀ visit ∈ (plain.trace accesses data).take 4, ¬ visit.Rejects) ∧
    (arrays.trace accesses (wrapped data)).take 4 =
      ((plain.trace accesses data).take 4).map Visit.wrapped := by
  intro data row accesses
  have nonNull : NonNull data := by
    intro key
    simp only [data, Keyed.get?]
    split
    · simp
    · split <;> simp
  have filled (columns : Fields) (member : .row columns ∈ accesses) : Filled columns := by
    simp only [accesses, List.mem_cons, reduceCtorEq, Access.row.injEq, List.not_mem_nil,
      false_or, or_false] at member
    have dotted : (splitLabel "g.y").1 ≠ none := by decide
    rcases member with rfl | rfl <;> simp [Filled, row, dotted]
  have accepted : ∀ visit ∈ (plain.trace accesses data).take 4, ¬ visit.Rejects := by
    have taken : ((plain.mergeRow row).outcome data).1 = .ok () := rfl
    simp [accesses, trace, Visit.Rejects, visit, taken, Except.map]
  exact ⟨nonNull, filled, accepted, trace_wrapped nonNull filled 4 accepted⟩

end Placement

end QueryBook
