import QueryBook.Proofs.Failing
import Mathlib.Data.List.Perm.Subperm

set_option autoImplicit false

namespace QueryBook

open QueryBook.Action Connection

namespace Statement

def asksToMake (style : MarkerStyle) (placement : Placement) (block : String) : List Asked :=
  match draft style placement block with
  | .error _ => []
  | .ok d =>
    if d.marked.needsSubstitution then [] else [.prepare d.sql d.marked.bindNames.length]

variable {σ : Type} {conn : Connection σ}

theorem ends_prepareText (sql : String) (n : Nat) (s : Recorded σ) :
    EndsIn (prepareText conn.recorded sql n) s (fun t => t.asked = s.asked ++ [.prepare sql n]) := by
  simp only [prepareText, ends_request, recorded, ends_record]
  exact (ends_self _ _).imp (fun _ _ _ => trivial) fun _ _ _ => trivial

theorem ends_create_asks (style : Option MarkerStyle) (placement : Placement) (block : String)
    (s : Recorded σ) :
    EndsIn (create conn.recorded style placement block) s
      (fun t => t.asked = s.asked ++ asksToMake (style.getD conn.style) placement block) := by
  have same : conn.recorded.style = conn.style := rfl
  rw [create_eq, same]
  simp only [asksToMake, ends_bind, ends_ofExcept]
  cases draft (style.getD conn.style) placement block with
  | error e => simp
  | ok d =>
    simp only
    split
    · simp
    · simp only [ends_bind, ends_pure]
      exact ends_prepareText d.sql _ s

end Statement

namespace Journal

-- The tags whose templates are looked for, each as often as it is.
inductive Looks : Journal → List String → Prop where
  | nil : Looks [] []
  | begun {journal : Journal} {tags : List String} (tag : String) (rest : Looks journal tags) :
    Looks (.begun tag :: journal) (tag :: tags)
  | other {journal : Journal} {tags : List String} {r : Record}
      (different : ∀ tag, r ≠ .begun tag) (rest : Looks journal tags) :
    Looks (r :: journal) tags

variable {journal later : Journal} {tags more : List String}

theorem looks_of_idle (idle : ∀ r ∈ journal, r.Idle) : Looks journal [] := by
  induction journal with
  | nil => exact .nil
  | cons r rest ih =>
    obtain ⟨first, others⟩ := List.forall_mem_cons.mp idle
    exact .other (fun tag => (first tag).1) (ih others)

theorem looks_done (tag : String) : Looks [.done tag] [] :=
  .other (fun other => (Record.begun_ne_done other tag).symm) .nil

theorem Looks.append (looks : Looks journal tags) (looks' : Looks later more) :
    Looks (journal ++ later) (tags ++ more) := by
  induction looks with
  | nil => exact looks'
  | begun tag _ ih => exact .begun tag ih
  | other different _ ih => exact .other different ih

theorem Looks.mem_iff (looks : Looks journal tags) {tag : String} :
    tag ∈ tags ↔ .begun tag ∈ journal := by
  induction looks with
  | nil => simp
  | begun other _ ih => simp [ih, Record.begun_inj]
  | other different _ ih => simp [ih, (different tag).symm]

end Journal

namespace Compiler

variable {σ : Type} {c : Compiler (Recorded σ)}

def texts (c : Compiler σ) (block : String) : List Asked :=
  match Template.includedTag block with
  | .ok none => Statement.asksToMake (c.style.getD c.connection.style) c.placement block
  | _ => []

def preparations (c : Compiler σ) (tag : String) : List Asked :=
  match c.library.template tag with
  | .error _ => []
  | .ok body => (Template.statements body).flatMap c.texts

variable {own other : List Asked} {anew path : List String} {tag : String}
  {desk t u : Desk (Recorded σ)}

-- The templates of `tags` were looked for in between. They had no chain, but for those of `anew`,
-- and what was stored has one.
structure Seeks (c : Compiler (Recorded σ)) (anew : List String) (desk t : Desk (Recorded σ))
    (records : Journal) (tags : List String) : Prop where
  noted : t.journal = desk.journal ++ records
  looks : records.Looks tags
  unmade : ∀ tag ∈ tags, c.library.chain? desk.cache tag = none ∨ tag ∈ anew
  sought : ∀ tag ∈ anew, tag ∈ tags
  stored : ∀ tag, .done tag ∈ records → (c.library.chain? t.cache tag).isSome

theorem Seeks.of_idle {idle : Journal} (rests : ∀ r ∈ idle, r.Idle)
    (noted : t.journal = desk.journal ++ idle) : Seeks c [] desk t idle [] where
  noted := noted
  looks := Journal.looks_of_idle rests
  unmade := by simp
  sought := by simp
  stored := fun tag done => absurd done (Journal.not_done_of_idle rests tag)

theorem Seeks.trans {records later : Journal} {tags more : List String}
    (first : Seeks c [] desk t records tags) (steps : Steps c.creating desk t)
    (second : Seeks c [] t u later more) (steps' : Steps c.creating t u) :
    Seeks c [] desk u (records ++ later) (tags ++ more) where
  noted := by rw [second.noted, first.noted, List.append_assoc]
  looks := first.looks.append second.looks
  unmade := by
    intro tag member
    rcases List.mem_append.mp member with member | member
    · exact first.unmade tag member
    · cases counts : c.library.chain? desk.cache tag with
      | none => exact .inl rfl
      | some chain => simpa [steps.chain? counts] using second.unmade tag member
  sought := by simp
  stored := by
    intro tag done
    rcases List.mem_append.mp done with done | done
    · obtain ⟨chain, counts⟩ := Option.isSome_iff_exists.mp (first.stored tag done)
      simp [steps'.chain? counts]
    · exact second.stored tag done

-- What was asked is on account of the templates that were looked for, or of `own`.
def Bill (c : Compiler (Recorded σ)) (own : List Asked) (anew : List String)
    (desk t : Desk (Recorded σ)) : Prop :=
  ∃ records tags work, Seeks c anew desk t records tags ∧
    t.conn.asked = desk.conn.asked ++ work ∧ work.Subperm (own ++ tags.flatMap c.preparations)

structure Spends (c : Compiler (Recorded σ)) (path : List String) (own : List Asked)
    (desk t : Desk (Recorded σ)) : Prop where
  apart : Apart c.creating path desk t
  bill : Bill c own [] desk t

theorem Spends.of_asked {conn : Recorded σ} {idle : Journal}
    (asked : conn.asked = desk.conn.asked ++ own) (rests : ∀ r ∈ idle, r.Idle) :
    Spends c path own desk { desk with conn, journal := desk.journal ++ idle } where
  apart := .of_step (.asked desk conn _ trivial) rfl
  bill := ⟨idle, [], own, .of_idle rests rfl, asked, by simp [List.Subperm.refl]⟩

theorem Spends.of_conn {conn : Recorded σ} (asked : conn.asked = desk.conn.asked ++ own) :
    Spends c path own desk { desk with conn } := by
  simpa using @Spends.of_asked _ c _ path desk conn [] asked (by simp)

theorem Spends.refl (c : Compiler (Recorded σ)) (path : List String) (desk : Desk (Recorded σ)) :
    Spends c path [] desk desk :=
  .of_conn (by simp)

theorem Spends.mono (spends : Spends c path own desk t) (less : own.Subperm other) :
    Spends c path other desk t where
  apart := spends.apart
  bill := by
    obtain ⟨records, tags, work, seeks, asked, within⟩ := spends.bill
    exact ⟨records, tags, work, seeks, asked,
      within.trans ((List.subperm_append_right _).mpr less)⟩

theorem append_append_perm {α : Type} (as bs cs ds : List α) :
    (as ++ bs ++ (cs ++ ds)).Perm (as ++ cs ++ (bs ++ ds)) := by
  rw [List.append_assoc, List.append_assoc]
  exact (List.perm_append_comm_assoc bs cs ds).append_left as

theorem Spends.trans (first : Spends c path own desk t) (second : Spends c path other t u) :
    Spends c path (own ++ other) desk u where
  apart := first.apart.trans second.apart
  bill := by
    obtain ⟨records, tags, work, seeks, asked, within⟩ := first.bill
    obtain ⟨records', tags', work', seeks', asked', within'⟩ := second.bill
    refine ⟨records ++ records', tags ++ tags', work ++ work',
      seeks.trans first.apart.steps seeks' second.apart.steps, ?_, ?_⟩
    · rw [asked', asked, List.append_assoc]
    · rw [List.flatMap_append]
      exact (within.append within').trans (append_append_perm ..).subperm

theorem Bill.begun (begins : Catalog.Begins tag desk.toCatalog t.toCatalog)
    (same : t.conn = desk.conn) (inner : Spends c path (c.preparations tag) t u) :
    Bill c [] [tag] desk u := by
  obtain ⟨idle, rests, noted⟩ := begins.noted
  obtain ⟨records, tags, work, seeks, asked, within⟩ := inner.bill
  refine ⟨.begun tag :: idle ++ records, tag :: tags, work, ⟨?_, ?_, ?_, by simp, ?_⟩, same ▸ asked,
    by simpa using within⟩
  · rw [seeks.noted, noted, List.append_assoc]
  · exact .begun tag ((Journal.looks_of_idle rests).append seeks.looks)
  · intro other member
    by_cases same : other = tag
    · simp [same]
    · have found := seeks.unmade other (List.mem_of_ne_of_mem same member)
      refine .inl ?_
      simpa [Library.chain?, begins.same other same] using found
  · intro other done
    rcases List.mem_append.mp done with done | done
    · rcases List.mem_cons.mp done with same | done
      · exact absurd same.symm (Record.begun_ne_done tag other)
      · exact absurd done (Journal.not_done_of_idle rests other)
    · exact seeks.stored other done

theorem Bill.stored {source : Source} (bill : Bill c own anew desk t)
    (resolved : (c.library.shelf.resolve c.library.tree tag).result = .ok source) (chain : Chain) :
    Bill c own anew desk
      { t with
        cache := t.cache.put tag ⟨source, c.library.fingerprint source, some chain⟩
        journal := t.journal ++ [.done tag] } := by
  obtain ⟨records, tags, work, seeks, asked, within⟩ := bill
  have looks : Journal.Looks (records ++ [.done tag]) tags := by
    simpa using seeks.looks.append (Journal.looks_done tag)
  refine ⟨records ++ [.done tag], tags, work, ⟨?_, looks, seeks.unmade, seeks.sought, ?_⟩, asked,
    within⟩
  · rw [seeks.noted, List.append_assoc]
  · intro other done
    rw [Library.chain?_stored resolved]
    split
    · rfl
    next different =>
      rcases List.mem_append.mp done with done | done
      · exact seeks.stored other done
      · exact absurd (Record.done_inj.mp (List.mem_singleton.mp done)) different

theorem Bill.unmade (bill : Bill c own [tag] desk t)
    (unmade : c.library.chain? desk.cache tag = none) : Bill c own [] desk t := by
  obtain ⟨records, tags, work, seeks, asked, within⟩ := bill
  have all (other : String) (member : other ∈ tags) :
      c.library.chain? desk.cache other = none ∨ other ∈ [] := by
    rcases seeks.unmade other member with none | same
    · exact .inl none
    · exact .inl (List.mem_singleton.mp same ▸ unmade)
  exact ⟨records, tags, work, ⟨seeks.noted, seeks.looks, all, by simp, seeks.stored⟩, asked, within⟩

section Watched

variable {conn : Connection σ} (watched : c.connection = conn.recorded)

include watched in
theorem ends_makeStatement_spends (path : List String) (tag block : String)
    (desk : Desk (Recorded σ)) :
    EndsIn (c.makeStatement tag block) desk
      (Spends c path
        (Statement.asksToMake (c.style.getD c.connection.style) c.placement block) desk) := by
  simp only [makeStatement, watched, ends_bind, Desk.ends_onConn, ends_pure]
  apply (Statement.ends_create_asks c.style c.placement block desk.conn).imp
  · intro s after asked
    apply ends_checkLabels_idle
    · exact fun idle rests => .of_asked asked rests
    · exact fun _ => .of_conn asked
  · exact fun _ _ asked => .of_conn asked

def SpendsOn (c : Compiler (Recorded σ)) (path : List String) (tag : String)
    (act : Action (Desk (Recorded σ)) Chain) : Prop :=
  ∀ desk, c.library.chain? desk.cache tag = none →
    EndsIn act desk (Spends c path [] desk)

include watched in
theorem ends_compileBlock_spends {tag block : String}
    (includeTag : (inner : String) → inner ∉ path → Action (Desk (Recorded σ)) Chain)
    (recursion : ∀ inner fresh, Template.includedTag block = .ok (some inner) →
      SpendsOn c path inner (includeTag inner fresh)) (desk : Desk (Recorded σ)) :
    EndsIn (c.compileBlock tag path includeTag block) desk (Spends c path (c.texts block) desk) := by
  cases named : Template.includedTag block with
  | error e =>
    simp only [compileBlock, texts, named, ends_bind, ends_ofExcept]
    exact .refl c path desk
  | ok target =>
    cases target with
    | none =>
      simp only [compileBlock_of_statement named, ends_map, texts, named]
      exact ends_makeStatement_spends watched path tag block desk
    | some inner =>
      simp only [compileBlock, texts, named, ends_bind, ends_ofExcept]
      split
      next cyclic => exact .refl c path desk
      next fresh =>
        simp only [ends_bind, Desk.ends_onCatalog]
        apply Catalog.ends_lookup_idle
        intro r idle
        have looked : Spends c path [] desk { desk with journal := desk.journal ++ [r] } :=
          .of_asked (by simp) (by simpa using idle)
        cases counts : c.library.chain? desk.cache inner with
        | some chain => exact looked
        | none =>
          simp only [ends_bind, ends_discard, ends_pure]
          exact (recursion inner fresh named { desk with journal := desk.journal ++ [r] }
            counts).mono fun _ later => looked.trans later

theorem ends_mapM_spends {α β : Type} {act : α → Action (Desk (Recorded σ)) β}
    (cost : α → List Asked) (xs : List α) (desk : Desk (Recorded σ))
    (each : ∀ x ∈ xs, ∀ t, EndsIn (act x) t (Spends c path (cost x) t)) :
    EndsIn (xs.mapM act) desk (Spends c path (xs.flatMap cost) desk) := by
  induction xs generalizing desk with
  | nil => exact .refl c path desk
  | cons x xs ih =>
    rw [List.mapM_cons]
    simp only [ends_bind, ends_pure, List.flatMap_cons]
    apply (each x (by simp) desk).imp
    · intro y t first
      exact (ih t fun other member => each other (List.mem_cons_of_mem _ member)).mono
        fun _ => first.trans
    · exact fun _ _ failed => failed.mono (List.sublist_append_left ..).subperm

include watched in
theorem ends_compileBody_spends {tag body : String} {source : Source}
    (found : c.library.template tag = .ok body)
    (resolved : (c.library.shelf.resolve c.library.tree tag).result = .ok source)
    (recursion : ∀ inner fresh, c.library.Includes tag inner →
      SpendsOn c (path ++ [tag]) inner (c.compileUnder (path ++ [tag]) inner fresh))
    {start desk : Desk (Recorded σ)} (begins : Catalog.Begins tag start.toCatalog desk.toCatalog)
    (same : desk.conn = start.conn)
    (held : desk.cache.get? tag = some ⟨source, c.library.fingerprint source, none⟩) :
    Ends (c.compileBody path tag body) desk
      (fun _ t => Bill c [] [tag] start t ∧
        ∃ records, t.journal = start.journal ++ records ∧ .done tag ∈ records)
      (fun _ t => Bill c [] [tag] start t) := by
  simp only [compileBody, ends_bind, Desk.ends_onCatalog, Catalog.note, ends_modify]
  have noted : Spends c (path ++ [tag]) [] desk
      { desk with journal := desk.journal ++ [.ofTag "compiler" ("PREPARE " ++ tag) tag] } := by
    refine .of_asked (by simp) ?_
    simp only [List.mem_singleton, forall_eq]
    exact Record.idle_of_message (by simp [Record.ofTag])
  have all : c.preparations tag = (Template.statements body).flatMap c.texts := by
    simp only [preparations, found]
  have entries (desk : Desk (Recorded σ)) :
      EndsIn ((Template.statements body).mapM fun block =>
          Action.mapError (Error.blame tag) <|
            c.compileBlock tag (path ++ [tag])
              (fun inner fresh => c.compileUnder (path ++ [tag]) inner fresh) block) desk
        (Spends c (path ++ [tag]) (c.preparations tag) desk) := by
    rw [all]
    apply ends_mapM_spends
    intro block member t
    simp only [ends_mapError]
    exact ends_compileBlock_spends watched _
      (fun inner fresh named => recursion inner fresh ⟨block, ⟨body, found, member⟩, named⟩) t
  apply (entries _).imp
  · intro entries t spends
    have reached := noted.trans spends
    have held' : t.cache.get? tag = some ⟨source, c.library.fingerprint source, none⟩ :=
      (reached.apart.same tag (by simp)).trans held
    simp only [Catalog.store, Catalog.note, Catalog.setEntry, ends_bind, ends_modify,
      Action.ends_get, held', ends_pure]
    have bill := Bill.begun begins same reached
    refine ⟨bill.stored resolved _, ?_⟩
    obtain ⟨records, _, _, seeks, -⟩ := bill
    exact ⟨records ++ [.done tag], by rw [seeks.noted, List.append_assoc]; rfl, by simp⟩
  · exact fun _ t spends => .begun begins same (noted.trans spends)

include watched in
theorem ends_compileAnew_spends (path : List String) (tag : String) (fresh : tag ∉ path)
    (recursion : ∀ inner fresh, tag ∈ c.library.shelf.findable c.library.tree →
      c.library.Includes tag inner →
      SpendsOn c (path ++ [tag]) inner (c.compileUnder (path ++ [tag]) inner fresh))
    (desk : Desk (Recorded σ)) :
    Ends (c.compileUnder path tag fresh) desk
      (fun _ t => Bill c [] [tag] desk t ∧
        ∃ records, t.journal = desk.journal ++ records ∧ .done tag ∈ records)
      (fun _ t => Bill c [] [tag] desk t) := by
  rw [compileUnder_eq]
  simp only [ends_bind, Desk.ends_onCatalog]
  have finds : Ends (Catalog.find c.library tag) desk.toCatalog
      (fun body t => c.library.template tag = .ok body ∧ ∃ source,
        (c.library.shelf.resolve c.library.tree tag).result = .ok source ∧
        t.cache.get? tag = some ⟨source, c.library.fingerprint source, none⟩)
      (fun _ _ => True) :=
    Catalog.ends_find
      (fun _ source _ found resolved => ⟨found, source, resolved, Keyed.get?_put_self ..⟩)
      fun _ _ _ => trivial
  apply ((Catalog.ends_find_begins c.library tag desk.toCatalog).and finds).imp
  · intro body catalog ended
    obtain ⟨⟨begins, -⟩, found, source, resolved, held⟩ := ended
    exact ends_compileBody_spends watched found resolved
      (fun inner fresh => recursion inner fresh (Shelf.mem_findable resolved)) begins rfl held
  · intro e catalog failed
    obtain ⟨⟨begins, -⟩, -⟩ := failed
    have stays : Spends c path (c.preparations tag) ⟨catalog, desk.conn⟩ ⟨catalog, desk.conn⟩ :=
      (Spends.refl c path _).mono List.nil_subperm
    exact .begun (t := ⟨catalog, desk.conn⟩) begins rfl stays

include watched in
theorem ends_compileUnder_spends (path : List String) (distinct : path.Nodup) (tag : String)
    (fresh : tag ∉ path) (walk : (path ++ [tag]).IsChain c.library.Includes) :
    SpendsOn c path tag (c.compileUnder path tag fresh) := by
  induction room : (c.library.remaining path).length using Nat.strongRecOn
    generalizing path tag with
  | ind room ih =>
    intro desk unmade
    have recursion (inner : String) (fresh' : inner ∉ path ++ [tag])
        (findable : tag ∈ c.library.shelf.findable c.library.tree)
        (includes : c.library.Includes tag inner) :
        SpendsOn c (path ++ [tag]) inner (c.compileUnder (path ++ [tag]) inner fresh') := by
      have less := Library.length_remaining_lt findable fresh
      exact ih _ (room ▸ less) _ (nodup_concat distinct fresh) inner fresh'
        (Library.isChain_concat walk includes) rfl
    apply ((ends_compileUnder c.creating c.foresees_any path distinct tag fresh walk trivial desk
      unmade).and (ends_compileAnew_spends watched path tag fresh recursion desk)).imp
    · exact fun _ _ ended => ⟨ended.1.1, ended.2.1.unmade unmade⟩
    · exact fun _ _ failed => ⟨failed.1.1, failed.2.unmade unmade⟩

include watched in
theorem ends_compile_spends (tag : String) (desk : Desk (Recorded σ)) :
    Ends (c.compile tag) desk
      (fun _ t => Bill c [] [tag] desk t ∧
        ∃ records, t.journal = desk.journal ++ records ∧ .done tag ∈ records)
      (fun _ t => Bill c [] [tag] desk t) := by
  apply ends_compileAnew_spends watched
  intro inner fresh _ includes
  exact ends_compileUnder_spends watched _ (by simp) inner fresh
    (@Library.isChain_concat _ [] _ _ (.singleton tag) includes)

include watched in
theorem ends_get_spends (tag : String) (desk : Desk (Recorded σ)) :
    EndsIn (c.get tag) desk (Spends c [] [] desk) := by
  simp only [get, ends_bind, Desk.ends_onCatalog]
  apply Catalog.ends_lookup_idle
  intro r idle
  have looked : Spends c [] [] desk { desk with journal := desk.journal ++ [r] } :=
    .of_asked (by simp) (by simpa using idle)
  cases counts : c.library.chain? desk.cache tag with
  | some chain => exact looked
  | none =>
    exact (ends_compileUnder_spends watched [] .nil tag (by simp) (.singleton tag)
      { desk with journal := desk.journal ++ [r] } counts).mono fun _ later => looked.trans later

end Watched

end Compiler

end QueryBook
