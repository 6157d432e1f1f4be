import QueryBook.Proofs.Results

set_option autoImplicit false

namespace QueryBook

open QueryBook.Action Connection

namespace Columns

variable {labels : List String} {label group field key : String}

def inGroup (group : String) (labels : List String) : List (String × String) :=
  labels.filterMap fun label =>
    match splitLabel label with
    | (some other, field) => if other = group then some (label, field) else none
    | (none, _) => none

theorem mem_inGroup :
    (label, field) ∈ inGroup group labels ↔
      label ∈ labels ∧ splitLabel label = (some group, field) := by
  simp only [inGroup, List.mem_filterMap]
  constructor
  · rintro ⟨other, member, found⟩
    rcases split : splitLabel other with ⟨_ | named, part⟩
    · simp [split] at found
    · simp only [split, Option.ite_none_right_eq_some, Option.some.injEq, Prod.mk.injEq] at found
      obtain ⟨rfl, rfl, rfl⟩ := found
      exact ⟨member, split⟩
  · rintro ⟨member, split⟩
    exact ⟨label, member, by simp [split]⟩

theorem inGroup_concat_of_some (split : splitLabel label = (some group, field)) (other : String) :
    inGroup other (labels ++ [label]) =
      inGroup other labels ++ if group = other then [(label, field)] else [] := by
  by_cases same : group = other <;> simp [inGroup, List.filterMap_append, split, same]

theorem inGroup_concat_of_none (bare : (splitLabel label).1 = none) (other : String) :
    inGroup other (labels ++ [label]) = inGroup other labels := by
  rcases split : splitLabel label with ⟨_ | _, _⟩
  · simp [inGroup, List.filterMap_append, split]
  · simp [split] at bare

theorem ofLabels_concat (labels : List String) (label : String) :
    ofLabels (labels ++ [label]) = (ofLabels labels).add label := by
  simp [ofLabels]

theorem bare_ofLabels (labels : List String) :
    (ofLabels labels).bare = labels.filter fun label => (splitLabel label).1 = none := by
  induction labels using List.reverseRecOn with
  | nil => rfl
  | append_singleton labels label ih =>
    rw [ofLabels_concat, List.filter_append, ← ih]
    unfold add
    rcases split : splitLabel label with ⟨_ | _, _⟩ <;> simp [split]

theorem get?_groups_ofLabels (labels : List String) (group : String) :
    (ofLabels labels).groups.get? group =
      if inGroup group labels = [] then none else some (inGroup group labels) := by
  induction labels using List.reverseRecOn with
  | nil => rfl
  | append_singleton labels label ih =>
    rw [ofLabels_concat]
    unfold add
    rcases split : splitLabel label with ⟨_ | other, field⟩
    · rw [inGroup_concat_of_none (by rw [split])]
      exact ih
    · rw [inGroup_concat_of_some split, Keyed.get?_put]
      by_cases same : group = other
      · subst same
        by_cases first : inGroup group labels = [] <;> simp [ih, first]
      · simp [same, Ne.symm same, ih]

theorem nodup_groups_ofLabels (labels : List String) : (ofLabels labels).groups.keys.Nodup := by
  induction labels using List.reverseRecOn with
  | nil => exact List.nodup_nil
  | append_singleton labels label ih =>
    rw [ofLabels_concat]
    unfold add
    split
    · exact ih
    · exact Keyed.nodup_keys_put _ _ ih

theorem mem_groups_ofLabels :
    group ∈ (ofLabels labels).groups.keys ↔
      ∃ label ∈ labels, (splitLabel label).1 = some group := by
  constructor
  · intro member
    obtain ⟨columns, found⟩ := Keyed.exists_get?_of_mem_keys member
    rw [get?_groups_ofLabels] at found
    split at found
    · cases found
    next some_column =>
      obtain ⟨⟨label, field⟩, member⟩ := List.exists_mem_of_ne_nil _ some_column
      obtain ⟨member, split⟩ := mem_inGroup.mp member
      exact ⟨label, member, by rw [split]⟩
  · rintro ⟨label, member, named⟩
    have column : (label, (splitLabel label).2) ∈ inGroup group labels :=
      mem_inGroup.mpr ⟨member, Prod.ext named rfl⟩
    have found : (ofLabels labels).groups.get? group = some (inGroup group labels) := by
      rw [get?_groups_ofLabels, if_neg (List.ne_nil_of_mem column)]
    exact Keyed.mem_keys_of_get? found

theorem mem_targets_ofLabels :
    key ∈ (ofLabels labels).targets ↔ ∃ label ∈ labels, targetOf label = key := by
  simp only [targets, List.mem_append, mem_groups_ofLabels, bare_ofLabels, List.mem_filter,
    decide_eq_true_eq]
  constructor
  · rintro (⟨label, member, named⟩ | ⟨member, bare⟩)
    · exact ⟨label, member, by simp [targetOf, named]⟩
    · exact ⟨key, member, by simp [targetOf, bare]⟩
  · rintro ⟨label, member, rfl⟩
    cases named : (splitLabel label).1 with
    | none => exact .inr (by simpa [targetOf, named] using member)
    | some group => exact .inl ⟨label, member, by simp [targetOf, named]⟩

end Columns

namespace Data

variable {data d : Fields} {labels : List String} {rows : List Fields}
  {label group : String}

def Occupied (data : Fields) (key : String) : Prop :=
  Value.shapeAt data key = .scalar ∨ Value.shapeAt data key = .mapping

instance (data : Fields) (key : String) : Decidable (Occupied data key) :=
  inferInstanceAs (Decidable (_ ∨ _))

theorem occupied?_eq_none_iff {keys : List String} :
    occupied? data keys = none ↔ ∀ key ∈ keys, ¬ Occupied data key := by
  simp [occupied?, Occupied]

theorem occupied?_targets_eq_none_iff :
    occupied? data (Columns.ofLabels labels).targets = none ↔
      ∀ label ∈ labels, ¬ Occupied data (targetOf label) := by
  simp only [occupied?_eq_none_iff, Columns.mem_targets_ofLabels]
  exact ⟨fun free label member => free _ ⟨label, member, rfl⟩,
    fun free key ⟨label, member, same⟩ => same ▸ free label member⟩

def written (data : Fields) (labels : List String) (rows : List Fields) : Fields :=
  let columns := Columns.ofLabels labels
  Keyed.putAll
    (Keyed.putAll data (columns.groups.map fun entry =>
      (entry.1, .list (rows.map (groupRow entry.2)))))
    (columns.bare.map fun label => (label, .list (rows.map (cell · label))))

theorem assignRows_of_free (free : ∀ label ∈ labels, ¬ Occupied data (targetOf label))
    (rows : List Fields) : assignRows data labels rows = .ok (written data labels rows) := by
  simp only [assignRows, occupied?_targets_eq_none_iff.mpr free, written, Keyed.putAll,
    List.foldl_map]

theorem exists_assignRows_iff :
    (∃ d, assignRows data labels rows = .ok d) ↔
      ∀ label ∈ labels, ¬ Occupied data (targetOf label) := by
  constructor
  · rintro ⟨d, assigned⟩
    rw [← occupied?_targets_eq_none_iff]
    unfold assignRows at assigned
    simp only at assigned
    split at assigned
    · cases assigned
    next free => exact free
  · exact fun free => ⟨_, assignRows_of_free free rows⟩

theorem exists_rejected_iff :
    (∃ e, assignRows data labels rows = .error e ∧ e.kind = .dataShape) ↔
      ∃ label ∈ labels, Occupied data (targetOf label) := by
  have assigns : (∃ d, assignRows data labels rows = .ok d) ↔
      ∀ label ∈ labels, ¬ Occupied data (targetOf label) := exists_assignRows_iff
  cases assigned : assignRows data labels rows with
  | ok d => simpa using assigns.mp ⟨d, assigned⟩
  | error e => simpa [assigned, kind_of_assignRows assigned] using assigns

theorem get?_written_bare (member : label ∈ labels) (bare : (splitLabel label).1 = none) :
    (written data labels rows).get? label = some (.list (rows.map (cell · label))) := by
  unfold written
  apply Keyed.get?_putAll_of_forall
  · simpa [Keyed.keys, Columns.bare_ofLabels] using ⟨member, bare⟩
  · rintro _ column rfl
    obtain ⟨label, -, rfl⟩ := List.mem_map.mp column
    rfl

theorem get?_written_of_not_bare {key : String}
    (dotted : ∀ label ∈ labels, (splitLabel label).1 = none → label ≠ key) :
    (written data labels rows).get? key =
      Keyed.get? (Keyed.putAll data ((Columns.ofLabels labels).groups.map fun entry =>
        (entry.1, .list (rows.map (groupRow entry.2))))) key := by
  refine Keyed.get?_putAll_of_not_mem _ ?_
  simp only [Keyed.keys, Columns.bare_ofLabels, List.map_map, List.mem_map, List.mem_filter,
    decide_eq_true_eq]
  rintro ⟨label, ⟨member, bare⟩, same⟩
  exact dotted label member bare same

theorem get?_written_group (unmixed : Unmixed labels) (member : label ∈ labels)
    (named : (splitLabel label).1 = some group) :
    (written data labels rows).get? group =
      some (.list (rows.map (groupRow (Columns.inGroup group labels)))) := by
  rw [get?_written_of_not_bare]
  · have found := Columns.get?_groups_ofLabels labels group
    rw [if_neg (List.ne_nil_of_mem (Columns.mem_inGroup.mpr ⟨member, Prod.ext named rfl⟩))]
      at found
    refine Keyed.get?_putAll_of_mem _ ?_ (List.mem_map_of_mem (Keyed.mem_of_get? found))
    simpa only [Keyed.keys, List.map_map, Function.comp_def] using
      Columns.nodup_groups_ofLabels labels
  · rintro bare member' outside rfl
    exact unmixed bare member' outside label member named

theorem get?_written_of_not_target {key : String}
    (absent : ∀ label ∈ labels, targetOf label ≠ key) :
    (written data labels rows).get? key = data.get? key := by
  rw [get?_written_of_not_bare]
  · refine Keyed.get?_putAll_of_not_mem _ ?_
    simp only [Keyed.keys, List.map_map, Function.comp_def]
    intro member
    obtain ⟨label, member, named⟩ := Columns.mem_groups_ofLabels.mp member
    exact absent label member (by simp [targetOf, named])
  · rintro label member bare rfl
    exact absent label member (by simp [targetOf, bare])

structure Gathers (labels : List String) (group : String) (row record : Fields) : Prop where
  nodup : record.keys.Nodup
  mem_keys : ∀ field,
    field ∈ record.keys ↔ ∃ label ∈ labels, splitLabel label = (some group, field)
  get? : ∀ label ∈ labels, ∀ field, splitLabel label = (some group, field) →
    record.get? field = some (cell row label)

-- One label alone stands for a field of the group, so it does not matter which comes last.
theorem exists_gathers (labels : List String) (group : String) (row : Fields) :
    ∃ record : Fields, groupRow (Columns.inGroup group labels) row = .record record ∧
      Gathers labels group row record := by
  let entries := (Columns.inGroup group labels).map fun column => (column.2, cell row column.1)
  have mem_entries (field : String) : field ∈ Keyed.keys entries ↔
      ∃ label ∈ labels, splitLabel label = (some group, field) := by
    simp [entries, Keyed.keys, Columns.mem_inGroup]
  refine ⟨Keyed.putAll [] entries, rfl, Keyed.nodup_keys_putAll _ List.nodup_nil, ?_, ?_⟩
  · intro field
    rw [Keyed.mem_keys_putAll, mem_entries]
    simp [Keyed.keys]
  · intro label member field split
    refine Keyed.get?_putAll_of_forall _ ((mem_entries field).mpr ⟨label, member, split⟩) ?_
    rintro _ entry rfl
    obtain ⟨⟨other, _⟩, column, rfl⟩ := List.mem_map.mp entry
    rw [splitLabel_inj.mp ((Columns.mem_inGroup.mp column).2.trans split.symm)]

-- What rows have made of the data: the key of a column outside the groups holds its cells, the key
-- of a group one record for every row, and every other key what it held.
structure Assigned (data : Fields) (labels : List String) (rows : List Fields) (d : Fields) :
    Prop where
  bare : ∀ label ∈ labels, (splitLabel label).1 = none →
    d.get? label = some (.list (rows.map (cell · label)))
  group : ∀ label ∈ labels, ∀ group, (splitLabel label).1 = some group → ∃ records : List Fields,
    d.get? group = some (.list (records.map .record)) ∧
      List.Forall₂ (Gathers labels group) rows records
  other : ∀ key, (∀ label ∈ labels, targetOf label ≠ key) → d.get? key = data.get? key

theorem assigned_written (data : Fields) (rows : List Fields) (unmixed : Unmixed labels) :
    Assigned data labels rows (written data labels rows) where
  bare _ member bare := get?_written_bare member bare
  group label member group named := by
    choose record made gathers using exists_gathers labels group
    refine ⟨rows.map record, ?_, ?_⟩
    · rw [get?_written_group unmixed member named, List.map_map]
      exact congrArg (fun records => some (Value.list records))
        (List.map_congr_left fun row _ => made row)
    · exact List.forall₂_map_right_iff.mpr (List.forall₂_same.mpr fun row _ => gathers row)
  other _ absent := get?_written_of_not_target absent

theorem Assigned.of_no_rows (assigned : Assigned data labels [] d) (member : label ∈ labels) :
    d.get? (targetOf label) = some (.list []) := by
  cases named : (splitLabel label).1 with
  | none => simpa [targetOf, named] using assigned.bare label member named
  | some group =>
    obtain ⟨records, held, gathered⟩ := assigned.group label member group named
    obtain rfl := List.forall₂_nil_left_iff.mp gathered
    simpa [targetOf, named] using held

/-- Several rows replace what was under their keys, or none of them is written. -/
theorem assignRows_writes (data : Fields) (labels : List String) (rows : List Fields)
    (unmixed : Unmixed labels) :
    ((∃ label ∈ labels, Occupied data (targetOf label)) →
      ∃ e, assignRows data labels rows = .error e ∧ e.kind = .dataShape) ∧
    ((∀ label ∈ labels, ¬ Occupied data (targetOf label)) →
      ∃ d, assignRows data labels rows = .ok d ∧ Assigned data labels rows d ∧
        (rows = [] → ∀ label ∈ labels, d.get? (targetOf label) = some (.list []))) ∧
    ∀ {σ : Type} (conn : Connection σ) (s : Statement) (sql : String) (h : Handle)
      (affected : Option Int) (stage : Stage σ) (t u : σ), s.kind = .zeroOrMore →
      stage.data = data → conn.describe h stage.conn = .ok labels t → conn.Gives h t rows none u →
      Stage.Leaves (s.collect conn sql h affected) stage
        ((assignRows data labels rows).map fun _ => 0)
        ((assignRows data labels rows).toOption.getD data) u := by
  refine ⟨exists_rejected_iff.mpr, ?_, ?_⟩
  · intro free
    have assigned := assigned_written data rows unmixed
    refine ⟨_, assignRows_of_free free rows, assigned, ?_⟩
    rintro rfl label member
    exact assigned.of_no_rows member
  · rintro σ conn s sql h affected stage t u kind rfl described gives
    cases assigned : assignRows stage.data labels rows with
    | error e => exact (Statement.Collects.all kind (.unassigned described gives assigned)).leaves
    | ok d => exact (Statement.Collects.all kind (.assigned described gives assigned)).leaves

-- Fields that are empty or have dots in them, a repeated label and a row without cells; and rows
-- that a query has asked for in the placement of arrays.
theorem assignRows_writes_columns :
    let data : Fields := [("k", .tuple [.int 9]), ("a", .null), ("z", .int 0)]
    let labels := ["a.b.c", "k", ".x", "a.", "k"]
    let rows : List Fields := [[("a.", .int 1), ("k", .text "one")], []]
    let d : Fields :=
      [("k", .list [.text "one", .null]),
       ("a", .list [.record [("b.c", .null), ("", .int 1)], .record [("b.c", .null), ("", .null)]]),
       ("z", .int 0), ("", .list [.record [("x", .null)], .record [("x", .null)]])]
    let query : Statement := { Statement.counted with kind := .zeroOrMore, placement := .arrays }
    let stage : Stage Nat := ⟨⟨2, []⟩, [("n", .null)]⟩
    Unmixed labels ∧ assignRows data labels rows = .ok d ∧ Assigned data labels rows d ∧
      (∃ e, assignRows [("k", .null), ("a", .int 1)] labels rows = .error e ∧
        e.kind = .dataShape) ∧
      Stage.Leaves (query.collect countdown query.sql ⟨0, query.sql⟩ none) stage (.ok 0)
        [("n", .list [.int 1, .int 0])] 0 := by
  intro data labels rows d query stage
  have unmixed : Unmixed labels := by decide
  obtain ⟨d', assigned, holds, -⟩ := (assignRows_writes data labels rows unmixed).2.1 (by decide)
  obtain rfl : d = d' := Except.ok.inj (rfl.symm.trans assigned)
  refine ⟨unmixed, assigned, holds, ?_, ?_⟩
  · exact (assignRows_writes _ labels rows unmixed).1 ⟨"a.", by decide, by decide⟩
  · exact (assignRows_writes stage.data ["n"] [[("n", .int 1)], [("n", .int 0)]] (by decide)).2.2
      countdown query query.sql ⟨0, query.sql⟩ none stage 2 0 rfl rfl rfl
      (.row rfl (.row rfl (.ended rfl)))

end Data

end QueryBook
