import QueryBook.Proofs.Assigning

set_option autoImplicit false

namespace QueryBook

namespace Placement

variable {placement : Placement} {data row columns first second : Fields} {held : Option Value}
  {key : String} {value : Value}

def takesAll (placement : Placement) : Option Value → Fields → Bool
  | _, [] => true
  | held, (label, value) :: rest =>
    placement.takes held label && placement.takesAll (some (placement.written held label value)) rest

def writtenAll (placement : Placement) (held : Option Value) (columns : Fields) : Option Value :=
  columns.foldl (fun held column => some (placement.written held column.1 column.2)) held

theorem takesAll_append (columns others : Fields) :
    placement.takesAll held (columns ++ others) =
      (placement.takesAll held columns &&
        placement.takesAll (placement.writtenAll held columns) others) := by
  induction columns generalizing held with
  | nil => rfl
  | cons column rest ih => simp [takesAll, ih, writtenAll, Bool.and_assoc]

theorem writtenAll_append (placement : Placement) (held : Option Value) (columns others : Fields) :
    placement.writtenAll held (columns ++ others) =
      placement.writtenAll (placement.writtenAll held columns) others :=
  List.foldl_append

-- Columns of different keys have nothing to do with each other.
theorem exists_mergeRow_iff_takesAll :
    (∃ d, placement.mergeRow row data = .ok () d) ↔ ∀ key,
      placement.takesAll (data.get? key) (row.filter fun column => targetOf column.1 = key) := by
  induction row generalizing data with
  | nil => simp [mergeRow, takesAll]
  | cons column rest ih =>
    obtain ⟨label, value⟩ := column
    simp only [mergeRow_cons_eq_ok_iff, exists_and_left, ih, Keyed.get?_put]
    constructor
    · rintro ⟨fits, later⟩ key
      specialize later key
      by_cases here : targetOf label = key
      · subst here
        simpa [takesAll, fits] using later
      · simpa [here, Ne.symm here] using later
    · intro all
      have here := all (targetOf label)
      simp only [decide_true, List.filter_cons_of_pos, takesAll, Bool.and_eq_true] at here
      refine ⟨here.1, fun key => ?_⟩
      split
      next same => simpa [same] using here.2
      next different => simpa [Ne.symm different] using all key

theorem takesAll_group (inside : ∀ column ∈ columns, (splitLabel column.1).1 = some key)
    (some_column : columns ≠ []) :
    placement.takesAll held columns = placement.takesField held := by
  induction columns generalizing held with
  | nil => exact absurd rfl some_column
  | cons column rest ih =>
    obtain ⟨label, value⟩ := column
    obtain ⟨named, inside⟩ := List.forall_mem_cons.mp inside
    have fits : placement.takes held label = placement.takesField held := by
      simp only at named
      simp [takes, named]
    by_cases last : rest = []
    · simp [takesAll, last, fits]
    · rcases split : splitLabel label with ⟨_ | _, field⟩
      · simp [split] at named
      · simp [takesAll, fits, ih inside last, written_group split]

def groupColumns (group : String) (columns : Fields) : Fields :=
  columns.filter fun column => (splitLabel column.1).1 = some group

theorem named_of_mem_groupColumns {column : String × Value}
    (member : column ∈ groupColumns key columns) : (splitLabel column.1).1 = some key :=
  of_decide_eq_true (List.mem_filter.mp member).2

theorem groupColumns_ne_nil {column : String × Value} (member : column ∈ columns)
    (named : (splitLabel column.1).1 = some key) : groupColumns key columns ≠ [] :=
  List.ne_nil_of_mem (List.mem_filter.mpr ⟨member, decide_eq_true named⟩)

def recordFields : Value → Fields
  | .record fields => fields
  | _ => []

theorem fieldsAt_some_placed (placement : Placement) (held : Option Value) (value : Value) :
    placement.fieldsAt (some (placement.placed held value)) = recordFields value := by
  cases placement <;> cases value <;> rfl

-- A column outside the groups and the columns of the group of its name, which stand before it and
-- after it in the row, are all written. A null column gives way to the group, a record counts as
-- the group's own, and in the placement of arrays the group gives way to any column after it.
def Overlooks (placement : Placement) (held : Option Value) (earlier : Fields) (value : Value)
    (later : Fields) : Prop :=
  match placement with
  | .plain =>
    earlier = [] ∧ placement.takesCell held = true ∧
      (value = .null ∨ ∃ fields, value = .record fields)
  | .arrays =>
    (if earlier = [] then placement.takesCell held else placement.takesField held) = true ∧
      (later = [] ∨ ∃ fields, value = .record fields)

def standing (value : Value) (later : Fields) : Value :=
  if later = [] then value else .record (Keyed.putAll (recordFields value) (groupFields later))

section Columns

variable {earlier later : Fields}

theorem takes_bare (bare : (splitLabel key).1 = none) :
    placement.takes held key = placement.takesCell held := by
  simp [takes, bare]

theorem takesAll_later (held : Option Value) (value : Value) :
    placement.takesAll (some (placement.placed held value)) (groupColumns key later) = true ↔
      groupColumns key later = [] ∨ (placement = .plain ∧ value = .null) ∨
        ∃ fields, value = .record fields := by
  by_cases last : groupColumns key later = []
  · simp [last, takesAll]
  · rw [takesAll_group (fun _ => named_of_mem_groupColumns) last]
    simp only [last, false_or]
    cases placement <;> cases value <;> simp [placed, takesField]

theorem writtenAll_group (placement : Placement) (held : Option Value)
    (some_column : groupColumns key columns ≠ []) :
    placement.writtenAll held (groupColumns key columns) = some (placement.placed held
      (.record (Keyed.putAll (placement.fieldsAt held) (groupFields (groupColumns key columns))))) :=
  foldl_written_group (fun _ => named_of_mem_groupColumns) some_column

theorem takesAll_collision_iff (bare : (splitLabel key).1 = none)
    (mixed : groupColumns key first ≠ [] ∨ groupColumns key second ≠ []) :
    placement.takesAll held (groupColumns key first ++ (key, value) :: groupColumns key second) =
        true ↔
      placement.Overlooks held (groupColumns key first) value (groupColumns key second) := by
  rw [takesAll_append]
  simp only [takesAll, takes_bare bare, written_bare bare, Bool.and_eq_true]
  by_cases alone : groupColumns key first = []
  · have after := mixed.resolve_left (not_not_intro alone)
    simp only [alone, writtenAll, List.foldl_nil, takesAll, true_and, takesAll_later, after,
      false_or]
    cases placement <;> simp [Overlooks, after]
  · rw [takesAll_group (fun _ => named_of_mem_groupColumns) alone, writtenAll_group _ _ alone,
      placed_placed, takesAll_later]
    -- In the plain placement the group has left a record, and no column may replace it.
    cases placement <;> simp [Overlooks, alone, placed, takesCell, Value.shape]

theorem writtenAll_collision (placement : Placement) (held : Option Value) (value : Value)
    (first second : Fields) (bare : (splitLabel key).1 = none) :
    placement.writtenAll held (groupColumns key first ++ (key, value) :: groupColumns key second) =
      some (placement.placed held (standing value (groupColumns key second))) := by
  have here : placement.writtenAll held (groupColumns key first ++ [(key, value)]) =
      some (placement.placed held value) := by
    by_cases alone : groupColumns key first = []
    · simp [alone, writtenAll, written_bare bare]
    · have before := writtenAll_group placement held alone
      rw [writtenAll_append, before]
      simp [writtenAll, written_bare bare]
  have split : groupColumns key first ++ (key, value) :: groupColumns key second =
      (groupColumns key first ++ [(key, value)]) ++ groupColumns key second := by simp
  by_cases last : groupColumns key second = []
  · simpa [last, standing] using here
  · have after := writtenAll_group placement (some (placement.placed held value)) last
    rw [split, writtenAll_append, here, after]
    simp [fieldsAt_some_placed, standing, last]

end Columns

theorem exists_mergeRow_without_iff (key : String) :
    (∃ d, placement.mergeRow row data = .ok () d) ↔
      (∃ d, placement.mergeRow (row.filter fun column => targetOf column.1 ≠ key) data = .ok () d) ∧
        placement.takesAll (data.get? key) (row.filter fun column => targetOf column.1 = key) := by
  have others (other : String) :
      ((row.filter fun column => targetOf column.1 ≠ key).filter fun column =>
        targetOf column.1 = other) =
      if other = key then [] else row.filter fun column => targetOf column.1 = other := by
    rw [List.filter_filter]
    split
    next same => simp [same]
    next different =>
      refine List.filter_congr fun column _ => ?_
      by_cases here : targetOf column.1 = other <;> simp [here, different]
  simp only [exists_mergeRow_iff_takesAll, others]
  constructor
  · intro all
    refine ⟨fun other => ?_, all key⟩
    split
    · rfl
    · exact all other
  · rintro ⟨all, here⟩ other
    by_cases same : other = key
    · exact same ▸ here
    · simpa [same] using all other

-- A row has one column under each label, so all others that go to its key are of the group.
theorem filter_target_eq (nodup : (first ++ (key, value) :: second).keys.Nodup)
    (bare : (splitLabel key).1 = none) :
    ((first ++ (key, value) :: second).filter fun column => targetOf column.1 = key) =
      groupColumns key first ++ (key, value) :: groupColumns key second := by
  have target : targetOf key = key := by simp [targetOf, bare]
  have group (columns : Fields) (absent : key ∉ columns.keys) :
      (columns.filter fun column => targetOf column.1 = key) = groupColumns key columns := by
    refine List.filter_congr fun column member => decide_eq_decide.mpr ?_
    cases named : (splitLabel column.1).1 with
    | none =>
      have other : column.1 ≠ key := fun same => absent (same ▸ Keyed.mem_keys_of_mem member)
      simp [targetOf, named, other]
    | some group => simp [targetOf, named]
  simp only [Keyed.keys, List.map_append, List.map_cons, List.nodup_append, List.nodup_cons,
    List.mem_cons] at nodup
  obtain ⟨-, ⟨after, -⟩, apart⟩ := nodup
  rw [List.filter_append, List.filter_cons_of_pos (by simpa using target), group first ?_,
    group second after]
  exact fun before => apart key before key (.inl rfl) rfl

theorem exists_error_iff (placement : Placement) (row data : Fields) :
    (∃ e d, placement.mergeRow row data = .error e d ∧ e.kind = .dataShape) ↔
      ¬ ∃ d, placement.mergeRow row data = .ok () d := by
  cases merged : placement.mergeRow row data with
  | ok _ d => simp
  | error e d => simp [kind_of_mergeRow merged]

/-- A row with such columns is rejected for them unless `Overlooks` holds of them; several rows are
never rejected for them, and the columns of the group are lost. -/
theorem collision_reported_iff (placement : Placement) (data : Fields) (key : String)
    (bare : (splitLabel key).1 = none) :
    (∀ (first : Fields) (value : Value) (second : Fields),
      let row : Fields := first ++ (key, value) :: second
      row.keys.Nodup → (∃ label ∈ row.keys, (splitLabel label).1 = some key) →
      ((∃ e d, placement.mergeRow row data = .error e d ∧ e.kind = .dataShape) ↔
        ¬ ((∃ d, placement.mergeRow (row.filter fun column => targetOf column.1 ≠ key) data =
            .ok () d) ∧
          placement.Overlooks (data.get? key) (groupColumns key first) value
            (groupColumns key second))) ∧
      ∀ d, placement.mergeRow row data = .ok () d → d.get? key =
        some (placement.placed (data.get? key) (standing value (groupColumns key second)))) ∧
    ∀ (labels : List String) (rows : List Fields),
      key ∈ labels → (∃ label ∈ labels, (splitLabel label).1 = some key) →
      ((∃ e, Data.assignRows data labels rows = .error e ∧ e.kind = .dataShape) ↔
        ∃ label ∈ labels, Data.Occupied data (targetOf label)) ∧
      ∀ d, Data.assignRows data labels rows = .ok d →
        d.get? key = some (.list (rows.map (Data.cell · key))) := by
  constructor
  · intro first value second row nodup grouped
    have here : (row.filter fun column => targetOf column.1 = key) =
        groupColumns key first ++ (key, value) :: groupColumns key second :=
      filter_target_eq nodup bare
    have mixed : groupColumns key first ≠ [] ∨ groupColumns key second ≠ [] := by
      obtain ⟨label, member, named⟩ := grouped
      obtain ⟨column, inside, rfl⟩ := List.mem_map.mp member
      rcases List.mem_append.mp inside with before | after
      · exact .inl (groupColumns_ne_nil before named)
      · rcases List.mem_cons.mp after with rfl | after
        · simp [bare] at named
        · exact .inr (groupColumns_ne_nil after named)
    refine ⟨?_, fun d merged => ?_⟩
    · rw [exists_error_iff, exists_mergeRow_without_iff key, here,
        takesAll_collision_iff bare mixed]
    · rw [get?_of_mergeRow key merged, here]
      exact writtenAll_collision placement (data.get? key) value first second bare
  · intro labels rows member grouped
    refine ⟨Data.exists_rejected_iff, fun d assigned => ?_⟩
    rw [Data.assignRows_of_free (Data.exists_assignRows_iff.mp ⟨d, assigned⟩)] at assigned
    cases assigned
    exact Data.get?_written_bare member bare

theorem exists_column_lost :
    Data.assignRows [] ["g", "g.x"] [[("g", .int 1), ("g.x", .int 2)]] =
      .ok [("g", .list [.int 1])] ∧
    Placement.arrays.mergeRow [("g.x", .int 2), ("g", .int 1)] [] =
      .ok () [("g", .list [.int 1])] ∧
    Placement.plain.mergeRow [("g", .null), ("g.x", .int 2)] [] =
      .ok () [("g", .record [("x", .int 2)])] :=
  ⟨rfl, rfl, rfl⟩

theorem collision_reported_iff_columns :
    let row : Fields := [("g.x", .int 2)] ++ ("g", .int 1) :: [("k", .null)]
    (splitLabel "g").1 = none ∧ row.keys.Nodup ∧
    (∃ e d, Placement.plain.mergeRow row [] = .error e d ∧ e.kind = .dataShape) ∧
    (∃ d, Placement.arrays.mergeRow row [] = .ok () d ∧ d.get? "g" = some (.list [.int 1])) ∧
    ∃ d, Data.assignRows [("k", .list [])] row.keys [row] = .ok d ∧
      d.get? "g" = some (.list [.int 1]) := by
  intro row
  have bare : (splitLabel "g").1 = none := rfl
  have nodup : row.keys.Nodup := by decide
  have grouped : ∃ label ∈ row.keys, (splitLabel label).1 = some "g" := ⟨"g.x", by decide, rfl⟩
  refine ⟨bare, nodup, ?_, ?_, ?_⟩
  · refine ((collision_reported_iff .plain [] "g" bare).1 _ _ _ nodup grouped).1.mpr ?_
    rintro ⟨-, alone, -⟩
    cases alone
  · obtain ⟨-, stands⟩ := (collision_reported_iff .arrays [] "g" bare).1 _ _ _ nodup grouped
    exact ⟨_, rfl, stands _ rfl⟩
  · obtain ⟨-, stands⟩ := (collision_reported_iff .plain [("k", .list [])] "g" bare).2 row.keys [row]
      (by decide) grouped
    exact ⟨_, rfl, stands _ rfl⟩

end Placement

end QueryBook
