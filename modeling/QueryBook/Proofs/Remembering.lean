import QueryBook.Proofs.Editing

set_option autoImplicit false

namespace QueryBook

open QueryBook.Action

theorem Cache.Dated.renew {cache : Cache} {revision : Nat} {tag : String} {entry : CacheEntry}
    (dated : cache.Dated revision) (held : cache.get? tag = some entry) (chain : Option Chain) :
    Cache.Dated (cache.put tag { entry with chain }) revision := by
  intro other later found
  rw [Keyed.get?_put] at found
  split at found
  next same =>
    cases found
    exact same ▸ dated tag entry held
  next => exact dated other later found

theorem Catalog.ends_store_first {library : Library} {catalog : Catalog} {tag : String}
    {chain : Chain} {good : Unit → Catalog → Prop} {bad : Error → Catalog → Prop}
    (unheld : catalog.cache.get? tag = none)
    (stored : ∀ source journal, (library.shelf.resolve library.tree tag).result = .ok source →
      good () ⟨catalog.cache.put tag ⟨source, library.fingerprint source, some chain⟩, journal⟩)
    (missing : ∀ e journal, bad e ⟨catalog.cache, journal⟩) :
    Ends (store library tag chain) catalog good bad := by
  simp only [store, note, resolve, setEntry, ends_bind, ends_modify, Action.ends_get, unheld]
  apply ends_conclude
  · exact stored
  · exact fun e journal _ => missing e journal

structure Archive extends Catalog where
  library : Library

namespace Archive

inductive Call where
  | add (tag sql : String)
  | remove (tag : String)
  | find (tag : String)
  | store (tag : String) (chain : Chain)
  | lookup (tag : String)
  | isValid (tag : String)
  | invalidate (tag : String)
  | clear

section Calls

variable {α : Type}

def onCatalog (act : Library → Action Catalog α) : Action Archive α := fun archive =>
  focus Archive.toCatalog (fun archive catalog => { archive with toCatalog := catalog })
    (act archive.library) archive

def lookup (tag : String) : Action Archive (Option Chain) :=
  onCatalog fun library => Catalog.lookup library tag

def isValid (tag : String) : Action Archive Bool := do
  let archive ← get
  pure (archive.library.isValid archive.cache tag)

def run : Call → Action Archive Unit
  | .add tag sql => modify fun archive =>
    { archive with library := archive.library.add tag sql }
  | .remove tag => do
    onCatalog fun _ => Catalog.invalidate tag
    modify fun archive => { archive with library := archive.library.remove tag }
  | .find tag => discard (onCatalog fun library => Catalog.find library tag)
  | .store tag chain => onCatalog fun library => Catalog.store library tag chain
  | .lookup tag => discard (lookup tag)
  | .isValid tag => discard (isValid tag)
  | .invalidate tag => onCatalog fun _ => Catalog.invalidate tag
  | .clear => onCatalog fun _ => Catalog.clear

@[simp] theorem ends_onCatalog {archive : Archive} {good : α → Archive → Prop}
    {bad : Error → Archive → Prop} (act : Library → Action Catalog α) :
    Ends (onCatalog act) archive good bad ↔
      Ends (act archive.library) archive.toCatalog
        (fun a catalog => good a { archive with toCatalog := catalog })
        (fun e catalog => bad e { archive with toCatalog := catalog }) :=
  ends_focus ..

end Calls

def after (archive : Archive) (calls : List Call) : Archive :=
  calls.foldl (fun archive call => ((run call).outcome archive).2) archive

namespace Call

def forgets (tag : String) : Call → Bool
  | .add other _ | .remove other | .invalidate other => other = tag
  | .clear => true
  | _ => false

def stored? (tag : String) : Call → Option Chain
  | .store other chain => if other = tag then some chain else none
  | _ => none

abbrev MayRecord (tag : String) (archive : Archive) (call : Call) : Prop :=
  call = .find tag ∨ ∃ chain, call = .store tag chain ∧ archive.cache.get? tag = none

def Records (tag : String) (archive : Archive) (call : Call) : Prop :=
  ((run call).outcome archive).1 = .ok () ∧ call.MayRecord tag archive

end Call

-- The `point` is the last of the calls that records the tag.
structure LastRecorded (archive : Archive) (tag : String) (calls before : List Call) (point : Call)
    (since : List Call) : Prop where
  split : calls = before ++ point :: since
  records : point.Records tag (archive.after before)
  last : ∀ middle call rest, since = middle ++ call :: rest →
    ¬ call.Records tag (archive.after (before ++ point :: middle))

def lastStored (tag : String) (calls : List Call) : Option Chain :=
  (calls.filterMap (Call.stored? tag)).getLast?

def remembered? (archive : Archive) (tag : String) : Option (Option Chain) :=
  archive.library.remembered? archive.cache tag

abbrev Shelved (archive : Archive) : Prop :=
  ∃ shelf, archive.library.shelf = .memory shelf ∧ shelf.Dated ∧
    archive.cache.Dated shelf.revision

variable {archive t : Archive} {tag : String} {chain : Chain} {call : Call} {records : Prop}

structure Step (tag : String) (archive : Archive) (call : Call) (records : Prop) (t : Archive) :
    Prop where
  shelved : t.Shelved
  recorded : records → t.remembered? tag = some (call.stored? tag)
  forgotten : ¬ records → call.forgets tag = true → t.remembered? tag = none
  kept : ¬ records → call.forgets tag = false →
    t.remembered? tag = (archive.remembered? tag).map fun held => (call.stored? tag).or held

theorem Step.record (shelved : t.Shelved) (recorded : records)
    (remembered : t.remembered? tag = some (call.stored? tag)) :
    Step tag archive call records t where
  shelved
  recorded := fun _ => remembered
  forgotten := fun unrecorded => (unrecorded recorded).elim
  kept := fun unrecorded => (unrecorded recorded).elim

theorem Step.forget (shelved : t.Shelved) (unrecorded : ¬ records)
    (forgets : call.forgets tag = true) (forgotten : t.remembered? tag = none) :
    Step tag archive call records t where
  shelved
  recorded := fun recorded => (unrecorded recorded).elim
  forgotten := fun _ _ => forgotten
  kept := fun _ kept => by simp [forgets] at kept

theorem Step.skip (shelved : t.Shelved) (unrecorded : ¬ records)
    (keeps : call.forgets tag = false) (unstored : call.stored? tag = none)
    (unchanged : t.remembered? tag = archive.remembered? tag) :
    Step tag archive call records t where
  shelved
  recorded := fun recorded => (unrecorded recorded).elim
  forgotten := fun _ forgets => by simp [keeps] at forgets
  kept := fun _ _ => by simp [unchanged, unstored]

theorem ends_find (shelved : archive.Shelved) (tag other : String) :
    Ends (run (.find other)) archive
      (fun _ t => Step tag archive (.find other) (Call.MayRecord tag archive (.find other)) t)
      (fun _ t => Step tag archive (.find other) False t) := by
  obtain ⟨shelf, memory, dated, fits⟩ := shelved
  simp only [run, ends_discard, ends_onCatalog]
  apply Catalog.ends_find
  · intro body source journal _ resolved
    have shelved : Shelved ⟨⟨archive.cache.put other
        ⟨source, archive.library.fingerprint source, none⟩, journal⟩, archive.library⟩ :=
      ⟨shelf, memory, dated, fits.put memory dated resolved none⟩
    by_cases same : other = tag
    · subst same
      refine .record shelved (.inl rfl) ?_
      simp [remembered?, Library.remembered?_put, Library.isCurrent_of_resolve resolved,
        Call.stored?]
    · refine .skip shelved ?_ rfl rfl ?_
      · simp [Call.MayRecord, same]
      · simp [remembered?, Library.remembered?_put, Ne.symm same]
  · intro e journal _
    exact .skip ⟨shelf, memory, dated, fits⟩ id rfl rfl rfl

theorem ends_store (shelved : archive.Shelved) (tag other : String) (chain : Chain) :
    Ends (run (.store other chain)) archive
      (fun _ t => Step tag archive (.store other chain)
        (Call.MayRecord tag archive (.store other chain)) t)
      (fun _ t => Step tag archive (.store other chain) False t) := by
  obtain ⟨shelf, memory, dated, fits⟩ := shelved
  simp only [run, ends_onCatalog]
  by_cases same : other = tag
  · subst same
    cases held : archive.cache.get? other with
    | some entry =>
      apply Catalog.ends_store held
      intro journal
      refine ⟨⟨shelf, memory, dated, fits.renew held _⟩, ?_, ?_, fun _ _ => ?_⟩
      · simp [Call.MayRecord, held]
      · simp [Call.forgets]
      · have current : archive.library.isCurrent { entry with chain := some chain } =
            archive.library.isCurrent entry := rfl
        simp only [remembered?, Library.remembered?_put, current, Call.stored?, if_true]
        simp only [Library.remembered?, held]
        split <;> rfl
    | none =>
      apply Catalog.ends_store_first held
      · intro source journal resolved
        refine .record ⟨shelf, memory, dated, fits.put memory dated resolved _⟩
          (.inr ⟨chain, rfl, held⟩) ?_
        simp [remembered?, Library.remembered?_put, Library.isCurrent_of_resolve resolved,
          Call.stored?]
      · intro e journal
        refine ⟨⟨shelf, memory, dated, fits⟩, False.elim, ?_, fun _ _ => ?_⟩
        · simp [Call.forgets]
        · simp [remembered?, Library.remembered?, held]
  · have skipped {t : Archive} {records : Prop} (shelved : t.Shelved) (unrecorded : ¬ records)
        (unchanged : t.remembered? tag = archive.remembered? tag) :
        Step tag archive (.store other chain) records t :=
      .skip shelved unrecorded rfl (if_neg same) unchanged
    have unrecorded : ¬ Call.MayRecord tag archive (.store other chain) := by
      simp [Call.MayRecord, same]
    have elsewhere (entry : CacheEntry) (journal : Journal) :
        remembered? ⟨⟨archive.cache.put other entry, journal⟩, archive.library⟩ tag =
          archive.remembered? tag := by
      simp [remembered?, Library.remembered?_put, Ne.symm same]
    cases held : archive.cache.get? other with
    | some entry =>
      apply Catalog.ends_store held
      intro journal
      exact skipped ⟨shelf, memory, dated, fits.renew held _⟩ unrecorded (elsewhere _ journal)
    | none =>
      apply Catalog.ends_store_first held
      · intro source journal resolved
        exact skipped ⟨shelf, memory, dated, fits.put memory dated resolved _⟩ unrecorded
          (elsewhere _ journal)
      · exact fun e journal => skipped ⟨shelf, memory, dated, fits⟩ id rfl

theorem ends_run (shelved : archive.Shelved) (tag : String) (call : Call) :
    Ends (run call) archive (fun _ t => Step tag archive call (call.MayRecord tag archive) t)
      (fun _ t => Step tag archive call False t) := by
  cases call with
  | find other => exact ends_find shelved tag other
  | store other chain => exact ends_store shelved tag other chain
  | add other sql =>
    obtain ⟨shelf, memory, dated, fits⟩ := shelved
    have memory' := Library.shelf_add memory other sql
    have shelved : Shelved { archive with library := archive.library.add other sql } :=
      ⟨_, memory', dated.add other sql, fits.mono (Nat.le_succ _)⟩
    by_cases same : other = tag
    · subst same
      refine .forget shelved ?_ ?_ (Library.remembered?_add_self memory fits sql)
      · simp [Call.MayRecord]
      · simp [Call.forgets]
    · refine .skip shelved ?_ ?_ rfl (Library.remembered?_of_get? memory memory' fits ?_)
      · simp [Call.MayRecord]
      · simp [Call.forgets, same]
      · exact Keyed.get?_put_of_ne _ _ (Ne.symm same)
  | remove other =>
    obtain ⟨shelf, memory, dated, fits⟩ := shelved
    have memory' := Library.shelf_remove memory other
    have shelved : Shelved ⟨⟨archive.cache.erase other, archive.journal⟩,
        archive.library.remove other⟩ := ⟨_, memory', dated.remove other, fits.erase other⟩
    simp only [run, ends_bind, ends_onCatalog, Catalog.invalidate, ends_modify]
    by_cases same : other = tag
    · refine .forget shelved (by simp [Call.MayRecord]) (by simp [Call.forgets, same]) ?_
      rw [remembered?, Library.remembered?_erase, if_pos same.symm]
    · refine .skip shelved (by simp [Call.MayRecord]) (by simp [Call.forgets, same]) rfl ?_
      rw [remembered?, Library.remembered?_erase, if_neg (Ne.symm same)]
      exact Library.remembered?_of_get? memory memory' fits
        (Keyed.get?_erase_of_ne _ (Ne.symm same))
  | lookup other =>
    simp only [run, lookup, ends_discard, ends_onCatalog]
    exact Catalog.ends_lookup fun _ => .skip shelved (by simp [Call.MayRecord]) rfl rfl rfl
  | isValid other => exact .skip shelved (by simp [Call.MayRecord]) rfl rfl rfl
  | invalidate other =>
    obtain ⟨shelf, memory, dated, fits⟩ := shelved
    have shelved : Shelved ⟨⟨archive.cache.erase other, archive.journal⟩, archive.library⟩ :=
      ⟨shelf, memory, dated, fits.erase other⟩
    simp only [run, ends_onCatalog, Catalog.invalidate, ends_modify]
    by_cases same : other = tag
    · refine .forget shelved (by simp [Call.MayRecord]) (by simp [Call.forgets, same]) ?_
      rw [remembered?, Library.remembered?_erase, if_pos same.symm]
    · refine .skip shelved (by simp [Call.MayRecord]) (by simp [Call.forgets, same]) rfl ?_
      rw [remembered?, Library.remembered?_erase, if_neg (Ne.symm same)]
      rfl
  | clear =>
    obtain ⟨shelf, memory, dated, -⟩ := shelved
    exact .forget ⟨shelf, memory, dated, Cache.dated_nil _⟩ (by simp [Call.MayRecord]) rfl rfl

theorem step_of_outcome (shelved : archive.Shelved) (tag : String) (call : Call) :
    Step tag archive call (call.Records tag archive) ((run call).outcome archive).2 := by
  have ends := ends_run shelved tag call
  unfold Call.Records outcome
  cases ran : run call archive with
  | ok _ t => simpa using ends.of_ok ran
  | error e t => simpa using ends.of_error ran

theorem after_concat (archive : Archive) (calls : List Call) (call : Call) :
    archive.after (calls ++ [call]) = ((run call).outcome (archive.after calls)).2 := by
  simp only [after, List.foldl_append, List.foldl_cons, List.foldl_nil]

theorem Shelved.after (shelved : archive.Shelved) (calls : List Call) :
    (archive.after calls).Shelved := by
  induction calls generalizing archive with
  | nil => exact shelved
  | cons call rest ih => exact ih (step_of_outcome shelved "" call).shelved

-- The tag was recorded, nothing that drops it came since, and this is what was stored last.
def Stands (archive : Archive) (tag : String) (calls : List Call) (held : Option Chain) : Prop :=
  ∃ before point since, LastRecorded archive tag calls before point since ∧
    (∀ call ∈ since, call.forgets tag = false) ∧ lastStored tag (point :: since) = held

theorem lastStored_concat (tag : String) (calls : List Call) (call : Call) :
    lastStored tag (calls ++ [call]) = (call.stored? tag).or (lastStored tag calls) := by
  unfold lastStored
  rw [List.filterMap_append]
  cases stored : call.stored? tag <;> simp [stored]

theorem lastStored_singleton (tag : String) (call : Call) :
    lastStored tag [call] = call.stored? tag := by
  cases stored : call.stored? tag <;> simp [lastStored, stored]

variable {calls before since : List Call} {point : Call} {held : Option Chain}

theorem lastRecorded_self (records : call.Records tag (archive.after calls)) :
    LastRecorded archive tag (calls ++ [call]) calls call [] where
  split := rfl
  records
  last := by
    intro middle other rest same
    cases middle <;> cases same

theorem LastRecorded.concat (last : LastRecorded archive tag calls before point since)
    (unrecorded : ¬ call.Records tag (archive.after calls)) :
    LastRecorded archive tag (calls ++ [call]) before point (since ++ [call]) where
  split := by simp [last.split]
  records := last.records
  last := by
    intro middle other rest same
    rcases List.eq_nil_or_concat rest with rfl | ⟨rest, final, rfl⟩
    · obtain ⟨rfl, rfl⟩ : since = middle ∧ call = other := by simpa using same
      rwa [← last.split]
    · have same : since = middle ++ other :: rest := by
        rw [List.concat_eq_append, ← List.cons_append, ← List.append_assoc] at same
        exact (List.append_inj' same rfl).1
      exact last.last middle other rest same

-- The last call is the point, or it comes after the point and does not record the tag.
theorem LastRecorded.of_concat
    (last : LastRecorded archive tag (calls ++ [call]) before point since) :
    (since = [] ∧ point = call ∧ call.Records tag (archive.after calls)) ∨
      ∃ earlier, since = earlier ++ [call] ∧ ¬ call.Records tag (archive.after calls) ∧
        LastRecorded archive tag calls before point earlier := by
  obtain ⟨split, records, others⟩ := last
  rcases List.eq_nil_or_concat since with rfl | ⟨earlier, final, rfl⟩
  · obtain ⟨rfl, rfl⟩ : calls = before ∧ call = point := by simpa using split
    exact .inl ⟨rfl, rfl, records⟩
  · rw [List.concat_eq_append] at split others ⊢
    rw [← List.cons_append, ← List.append_assoc] at split
    obtain ⟨rfl, same⟩ := List.append_inj' split rfl
    obtain rfl : call = final := by simpa using same
    refine .inr ⟨earlier, rfl, others earlier call [] rfl, rfl, records, ?_⟩
    intro middle other rest same
    exact others middle other (rest ++ [call]) (by simp [same])

theorem stands_concat_of_records (records : call.Records tag (archive.after calls)) :
    Stands archive tag (calls ++ [call]) held ↔ call.stored? tag = held := by
  constructor
  · intro stands
    obtain ⟨before, point, since, last, -, rfl⟩ := stands
    rcases last.of_concat with ⟨rfl, rfl, -⟩ | ⟨_, _, unrecorded, _⟩
    · rw [lastStored_singleton]
    · exact (unrecorded records).elim
  · intro stored
    exact ⟨calls, call, [], lastRecorded_self records, by simp, stored ▸ lastStored_singleton ..⟩

theorem not_stands_concat (unrecorded : ¬ call.Records tag (archive.after calls))
    (forgets : call.forgets tag = true) : ¬ Stands archive tag (calls ++ [call]) held := by
  intro stands
  obtain ⟨before, point, since, last, keep, -⟩ := stands
  rcases last.of_concat with ⟨-, -, records⟩ | ⟨earlier, rfl, -, -⟩
  · exact unrecorded records
  · simp [keep call (by simp)] at forgets

theorem stands_concat_of_kept (unrecorded : ¬ call.Records tag (archive.after calls))
    (keeps : call.forgets tag = false) :
    Stands archive tag (calls ++ [call]) held ↔
      ∃ earlier, Stands archive tag calls earlier ∧ (call.stored? tag).or earlier = held := by
  constructor
  · intro stands
    obtain ⟨before, point, since, last, keep, rfl⟩ := stands
    rcases last.of_concat with ⟨-, -, records⟩ | ⟨earlier, rfl, -, last⟩
    · exact (unrecorded records).elim
    · refine ⟨_, ⟨before, point, earlier, last, fun other member => keep other (by simp [member]),
        rfl⟩, ?_⟩
      rw [← List.cons_append, lastStored_concat]
  · intro stands
    obtain ⟨_, ⟨before, point, since, last, keep, rfl⟩, rfl⟩ := stands
    refine ⟨before, point, since ++ [call], last.concat unrecorded, ?_, ?_⟩
    · intro other member
      rcases List.mem_append.mp member with member | member
      · exact keep other member
      · rwa [List.mem_singleton.mp member]
    · rw [← List.cons_append, lastStored_concat]

theorem remembered?_after (shelved : archive.Shelved) (fresh : archive.cache = []) (tag : String)
    (calls : List Call) (held : Option Chain) :
    (archive.after calls).remembered? tag = some held ↔ Stands archive tag calls held := by
  induction calls using List.reverseRecOn generalizing held with
  | nil =>
    have nothing : archive.remembered? tag = none := by
      simp [remembered?, Library.remembered?, fresh]
    constructor
    · intro remembered
      cases nothing.symm.trans remembered
    · intro stands
      obtain ⟨before, point, since, last, -⟩ := stands
      have split := last.split
      simp at split
  | append_singleton calls call ih =>
    have step := step_of_outcome (shelved.after calls) tag call
    rw [← after_concat] at step
    by_cases records : call.Records tag (archive.after calls)
    · rw [step.recorded records, stands_concat_of_records records, Option.some.injEq]
    · cases forgets : call.forgets tag with
      | true =>
        simp [step.forgotten records forgets, not_stands_concat records forgets]
      | false =>
        rw [step.kept records forgets, stands_concat_of_kept records forgets,
          Option.map_eq_some_iff]
        simp only [ih]

def inMemory (templates : List (String × String)) : Archive where
  cache := []
  journal := []
  library := ⟨.memory (.ofList templates), .empty⟩

/-- A tag has a chain exactly when one has been stored since the tag was last recorded, and nothing
since has dropped it; it is the last one that was stored. -/
theorem lookup_after (templates : List (String × String)) (calls : List Call) (tag : String) :
    let archive := (inMemory templates).after calls
    ∃ chain?, ((lookup tag).outcome archive).1 = .ok chain? ∧
      (∀ chain, chain? = some chain ↔ Stands (inMemory templates) tag calls (some chain)) ∧
      ((isValid tag).outcome archive).1 = .ok chain?.isSome := by
  intro archive
  have shelved : (inMemory templates).Shelved :=
    ⟨_, rfl, MemoryShelf.dated_ofList templates, Cache.dated_nil _⟩
  refine ⟨archive.library.chain? archive.cache tag, rfl, fun chain => ?_, ?_⟩
  · rw [← remembered?_after shelved rfl, Library.chain?_eq, Option.join_eq_some_iff]
    rfl
  · rw [← Library.isValid_eq]
    rfl

end Archive

end QueryBook
