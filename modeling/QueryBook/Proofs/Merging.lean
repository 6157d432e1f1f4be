import QueryBook.Proofs.Labels

set_option autoImplicit false

namespace QueryBook

namespace Placement

-- What may be under the key of a column outside the groups: nothing, or a scalar; in the placement
-- of arrays, nothing or a list.
def takesCell : Placement → Option Value → Bool
  | _, none | _, some .null => true
  | .plain, some v => v.shape = .scalar
  | .arrays, some (.list _) => true
  | .arrays, some _ => false

-- What may be under the name of a group: nothing, or a record; in the placement of arrays, nothing
-- or a list that is empty or begins with a record.
def takesField : Placement → Option Value → Bool
  | _, none | _, some .null => true
  | .plain, some (.record _) => true
  | .arrays, some (.list []) => true
  | .arrays, some (.list (.record _ :: _)) => true
  | _, some _ => false

def takes (placement : Placement) (held : Option Value) (label : String) : Bool :=
  match (splitLabel label).1 with
  | none => placement.takesCell held
  | some _ => placement.takesField held

def laterItems : Option Value → List Value
  | some (.list (_ :: later)) => later
  | _ => []

def placed : Placement → Option Value → Value → Value
  | .plain, _, value => value
  | .arrays, held, value => .list (value :: laterItems held)

def fieldsAt : Placement → Option Value → Fields
  | .plain, some (.record fields) => fields
  | .arrays, some (.list (.record fields :: _)) => fields
  | _, _ => []

def written (placement : Placement) (held : Option Value) (label : String) (value : Value) :
    Value :=
  match splitLabel label with
  | (none, _) => placement.placed held value
  | (some _, field) =>
    placement.placed held (.record (Keyed.put (placement.fieldsAt held) field value))

variable {placement : Placement} {data d row : Fields} {held : Option Value} {label : String}
  {value : Value} {e : Error}

theorem written_bare (split : (splitLabel label).1 = none) :
    placement.written held label value = placement.placed held value := by
  unfold written
  split
  · rfl
  next named =>
    rw [named] at split
    cases split

theorem written_group {group field : String} (split : splitLabel label = (some group, field)) :
    placement.written held label value =
      placement.placed held (.record (Keyed.put (placement.fieldsAt held) field value)) := by
  simp only [written, split]

@[simp] theorem placed_placed (v w : Value) :
    placement.placed (some (placement.placed held v)) w = placement.placed held w := by
  cases placement <;> rfl

@[simp] theorem fieldsAt_placed (fields : Fields) :
    placement.fieldsAt (some (placement.placed held (.record fields))) = fields := by
  cases placement <;> rfl

@[simp] theorem takesField_placed (fields : Fields) :
    placement.takesField (some (placement.placed held (.record fields))) = true := by
  cases placement <;> rfl

@[simp] theorem unwrap_placed (key : String) :
    placement.unwrap key (placement.placed held value) = .ok value := by
  cases placement <;> rfl

theorem storeScalar_eq_ok_iff {key : String} :
    placement.storeScalar data key value = .ok d ↔
      placement.takesCell (data.get? key) = true ∧
        d = data.put key (placement.placed (data.get? key) value) := by
  unfold storeScalar Value.shapeAt
  cases data.get? key with
  | none => cases placement <;> simp [takesCell, placed, laterItems, eq_comm]
  | some v =>
    cases placement with
    | plain => cases v <;> simp [takesCell, placed, Value.shape, eq_comm]
    | arrays =>
      cases v with
      | list items => cases items <;> simp [takesCell, placed, laterItems, eq_comm]
      | _ => simp [takesCell, placed, laterItems, Value.shape, eq_comm]

theorem storeField_eq_ok_iff {group field : String} :
    placement.storeField data group field value = .ok d ↔
      placement.takesField (data.get? group) = true ∧
        d = data.put group (placement.placed (data.get? group)
          (.record (Keyed.put (placement.fieldsAt (data.get? group)) field value))) := by
  unfold storeField Value.shapeAt
  cases data.get? group with
  | none => cases placement <;> simp [takesField, placed, laterItems, fieldsAt, Keyed.put, eq_comm]
  | some v =>
    cases placement with
    | plain => cases v <;> simp [takesField, placed, fieldsAt, Keyed.put, Value.shape, eq_comm]
    | arrays =>
      cases v with
      | list items =>
        rcases items with _ | ⟨first, later⟩
        · simp [takesField, placed, laterItems, fieldsAt, Keyed.put, eq_comm]
        · cases first <;>
            simp [takesField, placed, laterItems, fieldsAt, Value.shape, eq_comm]
      | _ => simp [takesField, placed, laterItems, fieldsAt, Keyed.put, Value.shape, eq_comm]

theorem storeColumn_eq_ok_iff :
    placement.storeColumn data label value = .ok d ↔
      placement.takes (data.get? (targetOf label)) label = true ∧
        d = data.put (targetOf label)
          (placement.written (data.get? (targetOf label)) label value) := by
  unfold storeColumn takes written targetOf
  rcases split : splitLabel label with ⟨_ | group, field⟩
  · obtain rfl := eq_of_splitLabel_none split
    exact storeScalar_eq_ok_iff
  · exact storeField_eq_ok_iff

theorem kind_of_storeScalar {key : String}
    (rejected : placement.storeScalar data key value = .error e) : e.kind = .dataShape := by
  unfold storeScalar at rejected
  cases placement with
  | plain =>
    simp only at rejected
    split at rejected <;> cases rejected
    rfl
  | arrays =>
    simp only at rejected
    split at rejected
    · cases rejected
    · cases rejected
    · split at rejected <;> cases rejected
      rfl

theorem kind_of_storeField {group field : String}
    (rejected : placement.storeField data group field value = .error e) : e.kind = .dataShape := by
  unfold storeField at rejected
  cases placement with
  | plain =>
    simp only at rejected
    split at rejected
    · cases rejected
    · split at rejected <;> cases rejected
      rfl
  | arrays =>
    simp only at rejected
    split at rejected
    · cases rejected
    · cases rejected
    · split at rejected <;> cases rejected
      rfl

theorem kind_of_storeColumn (rejected : placement.storeColumn data label value = .error e) :
    e.kind = .dataShape := by
  unfold storeColumn at rejected
  split at rejected
  · exact kind_of_storeScalar rejected
  · exact kind_of_storeField rejected

section Rows

variable {rest : Fields}

theorem mergeRow_cons (placement : Placement) (data : Fields) (label : String) (value : Value)
    (rest : Fields) :
    placement.mergeRow ((label, value) :: rest) data =
      match placement.storeColumn data label value with
      | .ok data => placement.mergeRow rest data
      | .error e => .error e data :=
  rfl

theorem mergeRow_cons_eq_ok_iff :
    placement.mergeRow ((label, value) :: rest) data = .ok () d ↔
      placement.takes (data.get? (targetOf label)) label = true ∧
        placement.mergeRow rest (data.put (targetOf label)
          (placement.written (data.get? (targetOf label)) label value)) = .ok () d := by
  rw [mergeRow_cons]
  cases stored : placement.storeColumn data label value with
  | ok first =>
    obtain ⟨fits, rfl⟩ := storeColumn_eq_ok_iff.mp stored
    simp only [fits, true_and]
  | error e =>
    have misfit : ¬ placement.takes (data.get? (targetOf label)) label = true := fun fits => by
      rw [storeColumn_eq_ok_iff.mpr ⟨fits, rfl⟩] at stored
      cases stored
    simp [misfit]

theorem mergeRow_eq_error_iff :
    placement.mergeRow row data = .error e d ↔
      ∃ merged label value rest, row = merged ++ (label, value) :: rest ∧
        placement.mergeRow merged data = .ok () d ∧
        placement.storeColumn d label value = .error e := by
  induction row generalizing data with
  | nil => simp [mergeRow]
  | cons column row ih =>
    obtain ⟨label, value⟩ := column
    constructor
    · intro failed
      rw [mergeRow_cons] at failed
      cases stored : placement.storeColumn data label value with
      | error e' =>
        simp only [stored, EStateM.Result.error.injEq] at failed
        obtain ⟨rfl, rfl⟩ := failed
        exact ⟨[], label, value, row, rfl, rfl, stored⟩
      | ok first =>
        simp only [stored] at failed
        obtain ⟨merged, label', value', rest, rfl, ran, rejected⟩ := ih.mp failed
        refine ⟨(label, value) :: merged, label', value', rest, rfl, ?_, rejected⟩
        simpa only [mergeRow, stored] using ran
    · intro split
      obtain ⟨merged, label', value', rest, same, ran, rejected⟩ := split
      cases merged with
      | nil =>
        obtain ⟨rfl, rfl⟩ := Prod.mk.inj (List.cons.inj same).1
        cases ran
        rw [mergeRow_cons, rejected]
      | cons column merged =>
        obtain ⟨rfl, rfl⟩ := List.cons.inj same
        rw [mergeRow_cons] at ran ⊢
        cases stored : placement.storeColumn data label value with
        | error e' => simp [stored] at ran
        | ok first =>
          simp only [stored] at ran ⊢
          exact ih.mpr ⟨merged, label', value', rest, rfl, ran, rejected⟩

theorem kind_of_mergeRow (rejected : placement.mergeRow row data = .error e d) :
    e.kind = .dataShape := by
  obtain ⟨_, label, value, _, -, -, stored⟩ := mergeRow_eq_error_iff.mp rejected
  exact kind_of_storeColumn stored

theorem get?_of_mergeRow (key : String) (merged : placement.mergeRow row data = .ok () d) :
    d.get? key = (row.filter fun column => targetOf column.1 = key).foldl
      (fun held column => some (placement.written held column.1 column.2)) (data.get? key) := by
  induction row generalizing data with
  | nil =>
    cases merged
    rfl
  | cons column rest ih =>
    obtain ⟨label, value⟩ := column
    obtain ⟨-, merged⟩ := mergeRow_cons_eq_ok_iff.mp merged
    rw [ih merged, Keyed.get?_put]
    by_cases here : targetOf label = key
    · simp [here]
    · simp [here, Ne.symm here]

theorem takes_put {labels : List String} {other : String} (unmixed : Unmixed labels)
    (member : label ∈ labels) (member' : other ∈ labels) (different : label ≠ other)
    (fits : placement.takes (data.get? (targetOf label)) label = true) :
    placement.takes ((data.put (targetOf label)
        (placement.written (data.get? (targetOf label)) label value)).get? (targetOf other)) other =
      placement.takes (data.get? (targetOf other)) other := by
  rw [Keyed.get?_put]
  split
  next same =>
    obtain ⟨group, group'⟩ := unmixed.group_of_target member member' different same.symm
    rw [same]
    rcases split : splitLabel label with ⟨_ | _, field⟩
    · simp [split] at group
    · simp_all [takes, written]
  next => rfl

theorem exists_mergeRow_iff (nodup : row.keys.Nodup) (unmixed : Unmixed row.keys) :
    (∃ d, placement.mergeRow row data = .ok () d) ↔
      ∀ label ∈ row.keys, placement.takes (data.get? (targetOf label)) label = true := by
  induction row generalizing data with
  | nil => simp [Keyed.keys, mergeRow]
  | cons column rest ih =>
    obtain ⟨label, value⟩ := column
    obtain ⟨fresh, nodup⟩ := List.nodup_cons.mp nodup
    have later : Unmixed (Keyed.keys rest) := fun bare member split dotted member' =>
      unmixed bare (List.mem_cons_of_mem _ member) split dotted (List.mem_cons_of_mem _ member')
    have unchanged (fits : placement.takes (data.get? (targetOf label)) label = true)
        (other : String) (member : other ∈ Keyed.keys rest) :
        placement.takes ((data.put (targetOf label)
          (placement.written (data.get? (targetOf label)) label value)).get? (targetOf other))
            other = placement.takes (data.get? (targetOf other)) other :=
      takes_put unmixed (List.mem_cons_self ..) (List.mem_cons_of_mem _ member)
        (fun same => fresh (same ▸ member)) fits
    simp only [mergeRow_cons_eq_ok_iff, exists_and_left, Keyed.keys, List.map_cons,
      List.forall_mem_cons]
    refine and_congr_right fun fits => (ih nodup later).trans ?_
    exact forall₂_congr fun other member => by rw [unchanged fits other member]

end Rows

section Columns

variable {columns : Fields} {group : String}

def groupFields (columns : Fields) : Fields :=
  columns.map fun column => ((splitLabel column.1).2, column.2)

theorem foldl_written_placed (placement : Placement) (held : Option Value) (fields : Fields)
    (inside : ∀ column ∈ columns, (splitLabel column.1).1 = some group) :
    columns.foldl (fun held column => some (placement.written held column.1 column.2))
        (some (placement.placed held (.record fields))) =
      some (placement.placed held (.record (Keyed.putAll fields (groupFields columns)))) := by
  induction columns generalizing fields with
  | nil => rfl
  | cons column rest ih =>
    obtain ⟨label, value⟩ := column
    rcases split : splitLabel label with ⟨_ | _, field⟩
    · have named := inside (label, value) (List.mem_cons_self ..)
      simp [split] at named
    · simp only [List.foldl_cons, written_group split, placed_placed, fieldsAt_placed]
      rw [ih _ fun column member => inside column (List.mem_cons_of_mem _ member)]
      simp [groupFields, Keyed.putAll, split]

theorem foldl_written_group (inside : ∀ column ∈ columns, (splitLabel column.1).1 = some group)
    (some_column : columns ≠ []) :
    columns.foldl (fun held column => some (placement.written held column.1 column.2)) held =
      some (placement.placed held
        (.record (Keyed.putAll (placement.fieldsAt held) (groupFields columns)))) := by
  cases columns with
  | nil => exact absurd rfl some_column
  | cons column rest =>
    obtain ⟨label, value⟩ := column
    rcases split : splitLabel label with ⟨_ | _, field⟩
    · have named := inside (label, value) (List.mem_cons_self ..)
      simp [split] at named
    · have later := foldl_written_placed placement held
        (Keyed.put (placement.fieldsAt held) field value)
        fun column member => inside column (List.mem_cons_of_mem _ member)
      simpa [written_group split, split, groupFields, Keyed.putAll] using later

theorem nodup_groupFields (nodup : columns.keys.Nodup)
    (inside : ∀ column ∈ columns, (splitLabel column.1).1 = some group) :
    (Keyed.keys (groupFields columns)).Nodup := by
  have names : Keyed.keys (groupFields columns) =
      (Keyed.keys columns).map fun label => (splitLabel label).2 := by
    simp [groupFields, Keyed.keys]
  rw [names]
  refine nodup.map_on fun label named other named' same => splitLabel_inj.mp ?_
  obtain ⟨column, member, rfl⟩ := List.mem_map.mp named
  obtain ⟨column', member', rfl⟩ := List.mem_map.mp named'
  exact Prod.ext ((inside column member).trans (inside column' member').symm) same

end Columns

-- What a row has made of the data: a column outside the groups is in its place under its label, a
-- column of a group is a field of the record in the place of the group, which keeps its other
-- fields, and every other key holds what it held.
structure Wrote (placement : Placement) (data row d : Fields) : Prop where
  bare : ∀ label value, (label, value) ∈ row → (splitLabel label).1 = none →
    d.get? label = some (placement.placed (data.get? label) value)
  group : ∀ group, (∃ label ∈ row.keys, (splitLabel label).1 = some group) → ∃ fields : Fields,
    d.get? group = some (placement.placed (data.get? group) (.record fields)) ∧
    (∀ label value field, (label, value) ∈ row → splitLabel label = (some group, field) →
      fields.get? field = some value) ∧
    ∀ field, (∀ label ∈ row.keys, splitLabel label ≠ (some group, field)) →
      fields.get? field = (placement.fieldsAt (data.get? group)).get? field
  other : ∀ key, (∀ label ∈ row.keys, targetOf label ≠ key) → d.get? key = data.get? key

theorem filter_eq_singleton (nodup : row.keys.Nodup) (member : (label, value) ∈ row) :
    row.filter (fun column => column.1 = label) = [(label, value)] := by
  induction row with
  | nil => cases member
  | cons column rest ih =>
    obtain ⟨fresh, nodup⟩ := List.nodup_cons.mp nodup
    rcases List.mem_cons.mp member with rfl | member
    · have others : rest.filter (fun column => column.1 = label) = [] := by
        refine List.filter_eq_nil_iff.mpr fun other member same => fresh ?_
        exact List.mem_map.mpr ⟨other, member, of_decide_eq_true same⟩
      simp [others]
    · have different : column.1 ≠ label := by
        rintro rfl
        have named := Keyed.mem_keys_of_mem member
        exact fresh named
      simp [different, ih nodup member]

theorem wrote_of_mergeRow (nodup : row.keys.Nodup) (unmixed : Unmixed row.keys)
    (merged : placement.mergeRow row data = .ok () d) : placement.Wrote data row d where
  bare label value member outside := by
    have named : label ∈ row.keys := Keyed.mem_keys_of_mem member
    have target : targetOf label = label := by simp [targetOf, outside]
    have only : row.filter (fun column => targetOf column.1 = label) = [(label, value)] := by
      rw [← filter_eq_singleton nodup member]
      refine List.filter_congr fun column member' => decide_eq_decide.mpr ⟨fun same => ?_, ?_⟩
      · by_contra different
        have both := unmixed.group_of_target named (Keyed.mem_keys_of_mem member')
          (Ne.symm different) (target.trans same.symm)
        simp [outside] at both
      · rintro rfl
        exact target
    rw [get?_of_mergeRow label merged, only]
    exact congrArg some (written_bare outside)
  group group found := by
    obtain ⟨dotted, named, grouped⟩ := found
    let columns := row.filter fun column => targetOf column.1 = group
    have target : targetOf dotted = group := by simp [targetOf, grouped]
    have inside : ∀ column ∈ columns, (splitLabel column.1).1 = some group := by
      intro column member
      obtain ⟨member, same⟩ := List.mem_filter.mp member
      have same := of_decide_eq_true same
      by_cases different : dotted = column.1
      · exact different ▸ grouped
      · have both := unmixed.group_of_target named (Keyed.mem_keys_of_mem member) different
          (target.trans same.symm)
        exact target ▸ both.2
    have distinct : (Keyed.keys columns).Nodup :=
      nodup.sublist (List.filter_sublist.map _)
    have some_column : columns ≠ [] := by
      obtain ⟨column, member, rfl⟩ := List.mem_map.mp named
      exact List.ne_nil_of_mem (List.mem_filter.mpr ⟨member, decide_eq_true target⟩)
    refine ⟨_, (get?_of_mergeRow group merged).trans (foldl_written_group inside some_column),
      ?_, ?_⟩
    · intro label value field member split
      refine Keyed.get?_putAll_of_mem _ (nodup_groupFields distinct inside) ?_
      refine List.mem_map.mpr ⟨(label, value), List.mem_filter.mpr ⟨member, ?_⟩, by simp [split]⟩
      simp [targetOf, split]
    · intro field absent
      refine Keyed.get?_putAll_of_not_mem _ fun named => ?_
      obtain ⟨entry, member', rfl⟩ := List.mem_map.mp named
      obtain ⟨column, member, rfl⟩ := List.mem_map.mp member'
      exact absent column.1 (Keyed.mem_keys_of_mem (List.mem_filter.mp member).1)
        (Prod.ext (inside column member) rfl)
  other key absent := by
    have none : row.filter (fun column => targetOf column.1 = key) = [] :=
      List.filter_eq_nil_iff.mpr fun column member same =>
        absent column.1 (Keyed.mem_keys_of_mem member) (of_decide_eq_true same)
    rw [get?_of_mergeRow key merged, none]
    rfl

end Placement

-- The same value, but for the order of the fields of a record; the record may also be the first
-- item of a list.
inductive Value.Alike : Value → Value → Prop where
  | refl (v : Value) : Alike v v
  | record {fields others : Fields} (same : ∀ name, fields.get? name = others.get? name) :
    Alike (.record fields) (.record others)
  | first {v w : Value} (later : List Value) (alike : Alike v w) :
    Alike (.list (v :: later)) (.list (w :: later))

namespace Placement

variable {placement : Placement} {data d d' row other : Fields}

theorem alike_placed {held : Option Value} {v w : Value} (alike : v.Alike w) :
    (placement.placed held v).Alike (placement.placed held w) := by
  cases placement with
  | plain => exact alike
  | arrays => exact .first _ alike

-- The description of what a row writes does not tell the order of its columns.
theorem Wrote.alike (wrote : placement.Wrote data row d) (wrote' : placement.Wrote data other d')
    (same : row.Perm other) (key : String) :
    Option.Rel Value.Alike (d.get? key) (d'.get? key) := by
  have columns (column : String × Value) : column ∈ row ↔ column ∈ other := same.mem_iff
  have labels (label : String) : label ∈ row.keys ↔ label ∈ other.keys := (same.map _).mem_iff
  by_cases target : ∃ label ∈ row.keys, targetOf label = key
  · obtain ⟨label, named, rfl⟩ := target
    cases outside : (splitLabel label).1 with
    | none =>
      obtain ⟨⟨label, value⟩, member, rfl⟩ := List.mem_map.mp named
      have here : targetOf label = label := by simp [targetOf, outside]
      rw [here, wrote.bare label value member outside,
        wrote'.bare label value ((columns _).mp member) outside]
      exact .some (.refl _)
    | some group =>
      have here : targetOf label = group := by simp [targetOf, outside]
      obtain ⟨fields, held, holds, keeps⟩ := wrote.group group ⟨label, named, outside⟩
      obtain ⟨fields', held', holds', keeps'⟩ :=
        wrote'.group group ⟨label, (labels label).mp named, outside⟩
      rw [here, held, held']
      refine .some (alike_placed (.record fun field => ?_))
      by_cases present : ∃ label ∈ row.keys, splitLabel label = (some group, field)
      · obtain ⟨label, named, split⟩ := present
        obtain ⟨⟨label, value⟩, member, rfl⟩ := List.mem_map.mp named
        rw [holds label value field member split,
          holds' label value field ((columns _).mp member) split]
      · have absent : ∀ label ∈ row.keys, splitLabel label ≠ (some group, field) :=
          fun label named split => present ⟨label, named, split⟩
        rw [keeps field absent,
          keeps' field fun label named => absent label ((labels label).mpr named)]
  · have absent : ∀ label ∈ row.keys, targetOf label ≠ key :=
      fun label named here => target ⟨label, named, here⟩
    rw [wrote.other key absent,
      wrote'.other key fun label named => absent label ((labels label).mpr named)]
    cases data.get? key with
    | none => exact .none
    | some held => exact .some (.refl held)

theorem Wrote.resolve {label : String} {value : Value} (wrote : placement.Wrote data row d)
    (member : (label, value) ∈ row) (outside : (splitLabel label).1 = none)
    (scalar : value.isParameter = true) : placement.resolve d label = .ok value := by
  simp [Placement.resolve, wrote.bare label value member outside, scalar]

theorem Unmixed.of_perm (unmixed : Unmixed row.keys) (same : row.Perm other) :
    Unmixed other.keys := by
  have labels (label : String) : label ∈ other.keys ↔ label ∈ row.keys := (same.map _).mem_iff.symm
  exact fun bare named outside dotted named' =>
    unmixed bare ((labels bare).mp named) outside dotted ((labels dotted).mp named')

/-- A single row is written when each column fits what was there, in whatever order they come. -/
theorem mergeRow_writes (placement : Placement) (data row : Fields) (nodup : row.keys.Nodup)
    (unmixed : Unmixed row.keys) :
    ((∃ d, placement.mergeRow row data = .ok () d) ↔
      ∀ label ∈ row.keys, placement.takes (data.get? (targetOf label)) label = true) ∧
    ∀ d, placement.mergeRow row data = .ok () d →
      placement.Wrote data row d ∧
      (∀ other : Fields, row.Perm other → ∃ d', placement.mergeRow other data = .ok () d' ∧
        ∀ key, Option.Rel Value.Alike (d.get? key) (d'.get? key)) ∧
      ∀ label value, (label, value) ∈ row → (splitLabel label).1 = none →
        value.isParameter = true → placement.resolve d label = .ok value := by
  have fits : (∃ d, placement.mergeRow row data = .ok () d) ↔
      ∀ label ∈ row.keys, placement.takes (data.get? (targetOf label)) label = true :=
    exists_mergeRow_iff nodup unmixed
  refine ⟨fits, fun d merged => ?_⟩
  have wrote := wrote_of_mergeRow nodup unmixed merged
  refine ⟨wrote, fun other same => ?_, fun label value => wrote.resolve⟩
  have labels : row.keys.Perm other.keys := same.map _
  have nodup' : other.keys.Nodup := labels.nodup_iff.mp nodup
  have unmixed' := Unmixed.of_perm unmixed same
  obtain ⟨d', merged'⟩ := (exists_mergeRow_iff nodup' unmixed').mpr fun label named =>
    fits.mp ⟨d, merged⟩ label (labels.mem_iff.mpr named)
  exact ⟨d', merged', wrote.alike (wrote_of_mergeRow nodup' unmixed' merged') same⟩

-- A list with a record in front, which two columns go to, and a list of scalars.
theorem mergeRow_writes_arrays :
    let data : Fields :=
      [("a", .list [.int 1, .int 2]), ("g", .list [.record [("x", .int 1)], .int 5]), ("k", .null)]
    let row : Fields := [("g.y", .null), ("a", .text "new"), ("g.x", .int 7)]
    let d : Fields :=
      [("a", .list [.text "new", .int 2]),
       ("g", .list [.record [("x", .int 7), ("y", .null)], .int 5]), ("k", .null)]
    row.keys.Nodup ∧ Unmixed row.keys ∧ Placement.arrays.mergeRow row data = .ok () d ∧
      Placement.arrays.Wrote data row d ∧ Placement.arrays.resolve d "a" = .ok (.text "new") := by
  intro data row d
  have nodup : row.keys.Nodup := by decide
  have unmixed : Unmixed row.keys := by decide
  have merged : Placement.arrays.mergeRow row data = .ok () d := rfl
  obtain ⟨wrote, -, resolves⟩ := (mergeRow_writes .arrays data row nodup unmixed).2 d merged
  exact ⟨nodup, unmixed, merged, wrote, resolves "a" (.text "new") (by simp [row]) rfl rfl⟩

end Placement

end QueryBook
