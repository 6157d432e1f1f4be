import QueryBook.Proofs.Closure

set_option autoImplicit false

namespace QueryBook

open QueryBook.Action

namespace Record

def begun (tag : String) : Record :=
  .debug "archive" ("FIND " ++ tag)

def done (tag : String) : Record :=
  .debug "archive" ("CACHE " ++ tag)

theorem begun_inj {tag other : String} : begun tag = begun other ↔ tag = other := by
  simp [begun, debug]

theorem done_inj {tag other : String} : done tag = done other ↔ tag = other := by
  simp [done, debug]

theorem begun_ne_done (tag other : String) : begun tag ≠ done other := by
  intro same
  have letters := congrArg (fun r => r.message.toList.head?) same
  simp [begun, done, debug] at letters

def Idle (r : Record) : Prop :=
  ∀ tag, r ≠ begun tag ∧ r ≠ done tag

theorem idle_of_message {r : Record}
    (other : r.message.toList.take 2 ∉ [['F', 'I'], ['C', 'A']]) : r.Idle := by
  intro tag
  constructor
  · rintro rfl
    simp [begun, debug] at other
  · rintro rfl
    simp [done, debug] at other

end Record

namespace Journal

def Unfinished (journal : Journal) (tag : String) : Prop :=
  ∃ before after, journal = before ++ .begun tag :: after ∧ .done tag ∉ after

theorem unfinished_append {first second : Journal} {tag : String} :
    Unfinished (first ++ second) tag ↔
      Unfinished second tag ∨ Unfinished first tag ∧ .done tag ∉ second := by
  constructor
  · intro unfinished
    obtain ⟨before, after, same, undone⟩ := unfinished
    rcases List.append_eq_append_iff.mp same with ⟨middle, rfl, rfl⟩ | ⟨middle, rfl, later⟩
    · exact .inl ⟨middle, after, rfl, undone⟩
    · cases middle with
      | nil => exact .inl ⟨[], after, later.symm, undone⟩
      | cons r middle =>
        rw [List.cons_append, List.cons.injEq] at later
        obtain ⟨rfl, rfl⟩ := later
        simp only [List.mem_append, not_or] at undone
        exact .inr ⟨⟨before, middle, rfl, undone.1⟩, undone.2⟩
  · intro unfinished
    rcases unfinished with ⟨before, after, rfl, undone⟩ | ⟨⟨before, after, rfl, undone⟩, later⟩
    · exact ⟨first ++ before, after, (List.append_assoc ..).symm, undone⟩
    · exact ⟨before, after ++ second, by simp, by simp [undone, later]⟩

theorem not_unfinished_of_idle {journal : Journal} (idle : ∀ r ∈ journal, r.Idle) (tag : String) :
    ¬ Unfinished journal tag := by
  intro unfinished
  obtain ⟨before, after, rfl, -⟩ := unfinished
  exact (idle (.begun tag) (by simp) tag).1 rfl

theorem not_done_of_idle {journal : Journal} (idle : ∀ r ∈ journal, r.Idle) (tag : String) :
    .done tag ∉ journal :=
  fun member => (idle _ member tag).2 rfl

theorem unfinished_append_idle {added idle : Journal} (rest : ∀ r ∈ idle, r.Idle) {tag : String} :
    Unfinished (added ++ idle) tag ↔ Unfinished added tag := by
  simp [unfinished_append, not_unfinished_of_idle rest, not_done_of_idle rest]

theorem unfinished_begun {idle : Journal} (rest : ∀ r ∈ idle, r.Idle) {tag other : String} :
    Unfinished (.begun tag :: idle) other ↔ other = tag := by
  constructor
  · intro unfinished
    obtain ⟨before, after, same, -⟩ := unfinished
    cases before with
    | nil =>
      rw [List.nil_append, List.cons.injEq, Record.begun_inj] at same
      exact same.1.symm
    | cons r before =>
      rw [List.cons_append, List.cons.injEq] at same
      exact absurd rfl (rest (.begun other) (by simp [same.2]) other).1
  · rintro rfl
    exact ⟨[], idle, rfl, not_done_of_idle rest other⟩

theorem not_unfinished_done (tag other : String) : ¬ Unfinished [.done tag] other := by
  intro unfinished
  obtain ⟨before, after, same, -⟩ := unfinished
  have member : .begun other ∈ [Record.done tag] := by simp [same]
  exact Record.begun_ne_done other tag (List.mem_singleton.mp member)

end Journal

namespace Catalog

-- What compilations have done that go on: those of `way` have begun and not ended, and what is
-- known of the tags of `path` is still the same.
structure Leaves (path way : List String) (catalog t : Catalog) : Prop where
  noted : ∃ added : Journal, t.journal = catalog.journal ++ added ∧
    (∀ tag, Journal.Unfinished added tag ↔ tag ∈ way) ∧ ∀ tag ∈ path, .done tag ∉ added
  same : ∀ tag ∈ path, t.cache.get? tag = catalog.cache.get? tag

variable {library : Library} {path way : List String} {tag : String} {catalog t u : Catalog}

theorem Leaves.of_idle (idle : Journal) (rest : ∀ r ∈ idle, r.Idle)
    (noted : t.journal = catalog.journal ++ idle) (same : t.cache = catalog.cache) :
    Leaves path [] catalog t where
  noted := ⟨idle, noted, by simp [Journal.not_unfinished_of_idle rest],
    fun tag _ => Journal.not_done_of_idle rest tag⟩
  same := fun _ _ => by rw [same]

theorem Leaves.trans (first : Leaves path [] catalog t) (second : Leaves path way t u) :
    Leaves path way catalog u where
  noted := by
    obtain ⟨added, noted, finished, undone⟩ := first.noted
    obtain ⟨more, noted', unfinished, undone'⟩ := second.noted
    refine ⟨added ++ more, by rw [noted', noted, List.append_assoc], fun tag => ?_, ?_⟩
    · simp [Journal.unfinished_append, finished, unfinished]
    · intro tag member
      simp [undone tag member, undone' tag member]
  same := fun tag member => (second.same tag member).trans (first.same tag member)

theorem ends_lookup_idle {good : Option Chain → Catalog → Prop} {bad : Error → Catalog → Prop}
    (known : ∀ r : Record, r.Idle →
      good (library.chain? catalog.cache tag) ⟨catalog.cache, catalog.journal ++ [r]⟩) :
    Ends (lookup library tag) catalog good bad := by
  simp only [lookup, note, ends_bind, ends_modify, ends_get, ends_pure]
  exact known _ (Record.idle_of_message (by simp [Record.debug]))

theorem ends_lookup_leaves (path : List String) {good : Option Chain → Catalog → Prop}
    {bad : Error → Catalog → Prop}
    (known : ∀ journal, Leaves path [] catalog ⟨catalog.cache, journal⟩ →
      good (library.chain? catalog.cache tag) ⟨catalog.cache, journal⟩) :
    Ends (lookup library tag) catalog good bad :=
  ends_lookup_idle fun r idle => known _ (.of_idle [r] (by simpa using idle) rfl rfl)

theorem ends_forM_noteSkipped (skipped : List Path) {good : Unit → Catalog → Prop}
    {bad : Error → Catalog → Prop}
    (noted : ∀ idle : Journal, (∀ r ∈ idle, r.Idle) →
      good () ⟨catalog.cache, catalog.journal ++ idle⟩) :
    Ends (skipped.forM noteSkipped) catalog good bad := by
  induction skipped generalizing catalog with
  | nil => simpa using noted [] (by simp)
  | cons directory rest ih =>
    change Ends (noteSkipped directory >>= fun _ => rest.forM noteSkipped) catalog good bad
    simp only [ends_bind, noteSkipped, note, ends_modify]
    apply ih
    intro idle rests
    let skip : Record :=
      .debug "archive.files" ("Skipping missing library directory " ++ directory.text)
    have idleSkip : skip.Idle := Record.idle_of_message (by simp [skip, Record.debug])
    rw [List.append_assoc]
    exact noted (skip :: idle) (List.forall_mem_cons.mpr ⟨idleSkip, rests⟩)

-- The catalog has begun with the tag, and what it knows of the others is still the same.
structure Begins (tag : String) (catalog t : Catalog) : Prop where
  noted : ∃ idle : Journal, (∀ r ∈ idle, r.Idle) ∧
    t.journal = catalog.journal ++ .begun tag :: idle
  same : ∀ other, other ≠ tag → t.cache.get? other = catalog.cache.get? other

theorem ends_find_begins (library : Library) (tag : String) (catalog : Catalog) :
    Ends (find library tag) catalog
      (fun _ t => Begins tag catalog t ∧
        ∃ entry, t.cache.get? tag = some entry ∧ entry.chain = none)
      (fun _ t => Begins tag catalog t ∧ t.cache = catalog.cache) := by
  simp only [find, note, resolve, setEntry, conclude, ends_bind, ends_modify, ends_ofExcept,
    ends_pure]
  apply ends_forM_noteSkipped
  intro idle rests
  have begins {cache : Cache} (more : Journal) (rests' : ∀ r ∈ more, r.Idle)
      (same : ∀ other, other ≠ tag → cache.get? other = catalog.cache.get? other) :
      Begins tag catalog ⟨cache, catalog.journal ++ [.begun tag] ++ idle ++ more⟩ :=
    ⟨⟨idle ++ more, by simpa [or_imp, forall_and] using ⟨rests, rests'⟩, by simp⟩, same⟩
  have stopped : Begins tag catalog ⟨catalog.cache, catalog.journal ++ [.begun tag] ++ idle⟩ := by
    simpa using begins [] (by simp) fun _ _ => rfl
  cases (library.shelf.resolve library.tree tag).result with
  | error e => exact ⟨stopped, rfl⟩
  | ok source =>
    simp only
    cases library.shelf.read library.tree tag source with
    | error e => exact ⟨stopped, trivial⟩
    | ok body =>
      refine ⟨begins [_] ?_ fun other different => ?_, _, Keyed.get?_put_self .., rfl⟩
      · simp only [List.mem_singleton, forall_eq]
        exact Record.idle_of_message (by simp [Record.debug])
      · exact Keyed.get?_put_of_ne _ _ different

theorem Begins.leaves (begins : Begins tag catalog t) (fresh : tag ∉ path) :
    Leaves path [tag] catalog t where
  noted := by
    obtain ⟨idle, rests, noted⟩ := begins.noted
    refine ⟨_, noted, fun other => ?_, fun other member begun => ?_⟩
    · rw [Journal.unfinished_begun rests, List.mem_singleton]
    · rcases List.mem_cons.mp begun with same | later
      · exact Record.begun_ne_done tag other same.symm
      · exact Journal.not_done_of_idle rests other later
  same := fun other member => begins.same other fun same => fresh (same ▸ member)

theorem Leaves.within (begins : Leaves path [tag] catalog t)
    (inner : Leaves (path ++ [tag]) way t u) : Leaves path (tag :: way) catalog u where
  noted := by
    obtain ⟨added, noted, unfinished, undone⟩ := begins.noted
    obtain ⟨more, noted', unfinished', undone'⟩ := inner.noted
    refine ⟨added ++ more, by rw [noted', noted, List.append_assoc], fun other => ?_, ?_⟩
    · rw [Journal.unfinished_append, unfinished, unfinished', List.mem_singleton, List.mem_cons]
      constructor
      · rintro (later | ⟨rfl, -⟩)
        · exact .inr later
        · exact .inl rfl
      · rintro (rfl | later)
        · exact .inr ⟨rfl, undone' other (by simp)⟩
        · exact .inl later
    · intro other member
      simp [undone other member, undone' other (by simp [member])]
  same := fun other member =>
    (inner.same other (by simp [member])).trans (begins.same other member)

theorem Leaves.stored (begins : Leaves path [tag] catalog t)
    (noted : u.journal = t.journal ++ [.done tag])
    (same : ∀ other, other ≠ tag → u.cache.get? other = t.cache.get? other) (fresh : tag ∉ path) :
    Leaves path [] catalog u where
  noted := by
    obtain ⟨added, noted', unfinished, undone⟩ := begins.noted
    refine ⟨added ++ [.done tag], by rw [noted, noted', List.append_assoc], fun other => ?_, ?_⟩
    · rw [Journal.unfinished_append, unfinished]
      simp only [Journal.not_unfinished_done, List.mem_singleton, Record.done_inj, false_or,
        List.not_mem_nil, iff_false, not_and, not_not, imp_self]
    · intro other member
      have different : other ≠ tag := fun same => fresh (same ▸ member)
      simp [undone other member, Record.done_inj, different]
  same := fun other member =>
    (same other fun same => fresh (same ▸ member)).trans (begins.same other member)

end Catalog

namespace Compiler

variable {σ : Type} {c : Compiler σ} {path : List String}

structure Stopped (c : Compiler σ) (path way : List String) (desk t : Desk σ) : Prop where
  walk : (path ++ way).IsChain c.library.Includes
  leaves : Catalog.Leaves path way desk.toCatalog t.toCatalog
  unmade : ∀ tag ∈ way, c.library.chain? t.cache tag = none

variable {desk t u : Desk σ} {way : List String}

theorem Stopped.of_leaves (walk : path.IsChain c.library.Includes)
    (leaves : Catalog.Leaves path [] desk.toCatalog t.toCatalog) : Stopped c path [] desk t :=
  ⟨by rwa [List.append_nil], leaves, by simp⟩

theorem Stopped.after (leaves : Catalog.Leaves path [] desk.toCatalog t.toCatalog)
    (stopped : Stopped c path way t u) : Stopped c path way desk u :=
  ⟨stopped.walk, leaves.trans stopped.leaves, stopped.unmade⟩

theorem ends_bareLabels_idle {parsed : Parsed} {catalog : Catalog}
    {good : List String → Catalog → Prop} {bad : Error → Catalog → Prop}
    (noted : ∀ labels (idle : Journal), (∀ r ∈ idle, r.Idle) →
      good labels { catalog with journal := catalog.journal ++ idle })
    (broken : ∀ e, bad e catalog) : Ends parsed.bareLabels catalog good bad := by
  have silent (labels : List String) : good labels catalog := by
    simpa using noted labels [] (by simp)
  cases parsed with
  | query star labels => cases star <;> exact silent _
  | other => exact silent _
  | unparsed reason =>
    refine noted [] [_] ?_
    simp only [List.mem_singleton, forall_eq]
    exact Record.idle_of_message (by simp [Record.debug])
  | broken name text => exact broken _

theorem ends_checkLabels_idle (c : Compiler σ) (tag : String) (s : Statement) {desk : Desk σ}
    {good : Unit → Desk σ → Prop} {bad : Error → Desk σ → Prop}
    (noted : ∀ idle : Journal, (∀ r ∈ idle, r.Idle) →
      good () { desk with journal := desk.journal ++ idle })
    (broken : ∀ e, bad e desk) : Ends (c.checkLabels tag s) desk good bad := by
  have silent : good () desk := by simpa using noted [] (by simp)
  unfold checkLabels
  split
  · simp only [ends_bind, Desk.ends_onCatalog]
    apply ends_bareLabels_idle
    · intro labels idle rests
      split
      · simp only [Desk.ends_onCatalog, Catalog.note, ends_modify, List.append_assoc]
        refine noted _ (List.forall_mem_append.mpr ⟨rests, ?_⟩)
        simp only [List.mem_singleton, forall_eq]
        exact Record.idle_of_message (by simp)
      · exact noted idle rests
    · exact broken
  · exact silent

theorem ends_makeStatement_leaves (c : Compiler σ) (path : List String) (tag block : String)
    (desk : Desk σ) :
    EndsIn (c.makeStatement tag block) desk
      (fun t => Catalog.Leaves path [] desk.toCatalog t.toCatalog) := by
  have kept (conn : σ) : Catalog.Leaves path [] desk.toCatalog { desk with conn }.toCatalog :=
    .of_idle [] (by simp) (by simp) rfl
  simp only [makeStatement, ends_bind, Desk.ends_onConn, ends_pure]
  apply (ends_self _ _).imp
  · intro s conn _
    apply ends_checkLabels_idle
    · exact fun idle rests => .of_idle idle rests rfl rfl
    · exact fun _ => kept conn
  · exact fun _ conn _ => kept conn

def StopsWithin (c : Compiler σ) (path : List String) (tag : String)
    (act : Action (Desk σ) Chain) : Prop :=
  ∀ desk, c.library.chain? desk.cache tag = none →
    Ends act desk (fun _ t => Catalog.Leaves path [] desk.toCatalog t.toCatalog)
      (fun _ t => ∃ way, Stopped c path (tag :: way) desk t)

theorem ends_compileBlock_leaves {tag block : String}
    (walk : (path ++ [tag]).IsChain c.library.Includes) (held : c.library.HasBlock tag block)
    (includeTag : (inner : String) → inner ∉ path ++ [tag] → Action (Desk σ) Chain)
    (recursion : ∀ inner fresh, c.library.Includes tag inner →
      StopsWithin c (path ++ [tag]) inner (includeTag inner fresh)) (desk : Desk σ) :
    Ends (c.compileBlock tag (path ++ [tag]) includeTag block) desk
      (fun _ t => Catalog.Leaves (path ++ [tag]) [] desk.toCatalog t.toCatalog)
      (fun _ t => ∃ way, Stopped c (path ++ [tag]) way desk t) := by
  have here : Stopped c (path ++ [tag]) [] desk desk :=
    .of_leaves walk (.of_idle [] (by simp) (by simp) rfl)
  cases named : Template.includedTag block with
  | error e =>
    simp only [compileBlock, named, ends_bind, ends_ofExcept]
    exact ⟨[], here⟩
  | ok target =>
    cases target with
    | none =>
      rw [compileBlock_of_statement named, ends_map]
      apply (ends_makeStatement_leaves c (path ++ [tag]) tag block desk).imp
      · exact fun _ _ leaves => leaves
      · exact fun _ _ leaves => ⟨[], .of_leaves walk leaves⟩
    | some inner =>
      simp only [compileBlock, named, ends_bind, ends_ofExcept]
      split
      next cyclic => exact ⟨[], here⟩
      next fresh =>
        simp only [ends_bind, Desk.ends_onCatalog]
        apply Catalog.ends_lookup_leaves (path ++ [tag])
        intro journal looked
        cases counts : c.library.chain? desk.cache inner with
        | some chain => exact looked
        | none =>
          simp only [ends_bind, ends_discard, ends_pure]
          apply (recursion inner fresh ⟨block, held, named⟩ { desk with journal } counts).imp
          · exact fun _ _ leaves => looked.trans leaves
          · intro e t stopped
            obtain ⟨way, stopped⟩ := stopped
            exact ⟨inner :: way, stopped.after looked⟩

theorem ends_mapM_leaves {α β : Type} {act : α → Action (Desk σ) β} (xs : List α)
    (desk : Desk σ)
    (each : ∀ x ∈ xs, ∀ t, Ends (act x) t
      (fun _ u => Catalog.Leaves path [] t.toCatalog u.toCatalog)
      (fun _ u => ∃ way, Stopped c path way t u)) :
    Ends (xs.mapM act) desk (fun _ t => Catalog.Leaves path [] desk.toCatalog t.toCatalog)
      (fun _ t => ∃ way, Stopped c path way desk t) := by
  have passage : Passage (fun s t : Desk σ => Catalog.Leaves path [] s.toCatalog t.toCatalog)
      fun s (_ : Error) t => ∃ way, Stopped c path way s t :=
    { refl := fun _ => .of_idle [] (by simp) (by simp) rfl
      trans := fun leaves later => leaves.trans later
      after := fun leaves stopped => stopped.imp fun _ stopped => stopped.after leaves }
  exact passage.mapM xs each desk

theorem ends_compileBody_leaves {tag body : String} (fresh : tag ∉ path)
    (walk : (path ++ [tag]).IsChain c.library.Includes)
    (found : c.library.template tag = .ok body)
    (recursion : ∀ inner fresh, c.library.Includes tag inner →
      StopsWithin c (path ++ [tag]) inner (c.compileUnder (path ++ [tag]) inner fresh))
    {start desk : Desk σ} (begins : Catalog.Begins tag start.toCatalog desk.toCatalog)
    {entry : CacheEntry} (held : desk.cache.get? tag = some entry) (unmade : entry.chain = none) :
    Ends (c.compileBody path tag body) desk
      (fun _ t => Catalog.Leaves path [] start.toCatalog t.toCatalog)
      (fun _ t => ∃ way, Stopped c path (tag :: way) start t) := by
  simp only [compileBody, ends_bind, Desk.ends_onCatalog, Catalog.note, ends_modify]
  have noted : Catalog.Leaves (path ++ [tag]) [] desk.toCatalog
      ⟨desk.cache, desk.journal ++ [.ofTag "compiler" ("PREPARE " ++ tag) tag]⟩ := by
    refine .of_idle [_] ?_ rfl rfl
    simp only [List.mem_singleton, forall_eq]
    exact Record.idle_of_message (by simp [Record.ofTag])
  have entries (desk : Desk σ) :
      Ends ((Template.statements body).mapM fun block =>
          Action.mapError (Error.blame tag) <|
            c.compileBlock tag (path ++ [tag])
              (fun inner fresh => c.compileUnder (path ++ [tag]) inner fresh) block) desk
        (fun _ t => Catalog.Leaves (path ++ [tag]) [] desk.toCatalog t.toCatalog)
        (fun _ t => ∃ way, Stopped c (path ++ [tag]) way desk t) := by
    apply ends_mapM_leaves
    intro block member t
    rw [ends_mapError]
    exact ends_compileBlock_leaves walk ⟨body, found, member⟩ _ recursion t
  apply (entries _).imp
  · intro entries t leaves
    have reached := (begins.leaves fresh).within (noted.trans leaves)
    have held' : t.cache.get? tag = some entry :=
      ((noted.trans leaves).same tag (by simp)).trans held
    simp only [Catalog.store, Catalog.note, Catalog.setEntry, ends_bind, ends_modify,
      Action.ends_get, held', ends_pure]
    exact reached.stored rfl (fun other different => Keyed.get?_put_of_ne _ _ different) fresh
  · intro e t stopped
    obtain ⟨way, stopped⟩ := stopped
    have leaves := noted.trans stopped.leaves
    refine ⟨way, by simpa using stopped.walk, (begins.leaves fresh).within leaves, ?_⟩
    intro other member
    rcases List.mem_cons.mp member with rfl | member
    · have held' : t.cache.get? other = some entry := (leaves.same other (by simp)).trans held
      simp [Library.chain?, held', unmade]
    · exact stopped.unmade other member

-- When its template is not found, a tag keeps the chain that it may have had.
theorem ends_compileAnew_leaves {tag : String} (fresh : tag ∉ path)
    (walk : (path ++ [tag]).IsChain c.library.Includes)
    (recursion : ∀ inner fresh, tag ∈ c.library.shelf.findable c.library.tree →
      c.library.Includes tag inner →
      StopsWithin c (path ++ [tag]) inner (c.compileUnder (path ++ [tag]) inner fresh))
    (desk : Desk σ) :
    Ends (c.compileUnder path tag fresh) desk
      (fun _ t => Catalog.Leaves path [] desk.toCatalog t.toCatalog)
      (fun _ t => (∃ way, Stopped c path (tag :: way) desk t) ∨
        Catalog.Begins tag desk.toCatalog t.toCatalog ∧ t.cache = desk.cache ∧
          t.conn = desk.conn) := by
  rw [compileUnder_eq]
  simp only [ends_bind, Desk.ends_onCatalog]
  have finds : Ends (Catalog.find c.library tag) desk.toCatalog
      (fun body _ => c.library.template tag = .ok body ∧
        ∃ source, (c.library.shelf.resolve c.library.tree tag).result = .ok source)
      (fun _ _ => True) :=
    Catalog.ends_find (fun _ source _ found resolved => ⟨found, source, resolved⟩)
      fun _ _ _ => trivial
  apply ((Catalog.ends_find_begins c.library tag desk.toCatalog).and finds).imp
  · intro body catalog ended
    obtain ⟨⟨begins, entry, held, unmade⟩, found, source, resolved⟩ := ended
    apply (ends_compileBody_leaves fresh walk found
      (fun inner fresh' => recursion inner fresh' (Shelf.mem_findable resolved)) begins held
      unmade).imp
    · exact fun _ _ leaves => leaves
    · exact fun _ _ stopped => .inl stopped
  · exact fun _ _ failed => .inr ⟨failed.1.1, failed.1.2, trivial⟩

theorem ends_compileUnder_leaves (c : Compiler σ) (path : List String) (tag : String)
    (fresh : tag ∉ path) (walk : (path ++ [tag]).IsChain c.library.Includes) :
    StopsWithin c path tag (c.compileUnder path tag fresh) := by
  induction room : (c.library.remaining path).length using Nat.strongRecOn
    generalizing path tag with
  | ind room ih =>
    intro desk unmade
    have recursion (inner : String) (fresh' : inner ∉ path ++ [tag])
        (findable : tag ∈ c.library.shelf.findable c.library.tree)
        (includes : c.library.Includes tag inner) :
        StopsWithin c (path ++ [tag]) inner (c.compileUnder (path ++ [tag]) inner fresh') := by
      have less := Library.length_remaining_lt findable fresh
      exact ih _ (room ▸ less) (path ++ [tag]) inner fresh' (Library.isChain_concat walk includes)
        rfl
    apply (ends_compileAnew_leaves fresh walk recursion desk).imp
    · exact fun _ _ leaves => leaves
    · intro e t failed
      rcases failed with stopped | ⟨begins, same, -⟩
      · exact stopped
      · refine ⟨[], walk, begins.leaves fresh, ?_⟩
        intro other member
        cases List.mem_singleton.mp member
        rw [same, unmade]

-- A compilation that stops leaves no chain for the tags that it was about, unless it has asked the
-- connection nothing.
theorem ends_compile_leaves (c : Compiler σ) (tag : String) (desk : Desk σ) :
    Ends (c.compile tag) desk
      (fun _ t => Catalog.Leaves [] [] desk.toCatalog t.toCatalog)
      (fun _ t => (∃ way, Stopped c [] (tag :: way) desk t) ∨ t.conn = desk.conn) := by
  apply (ends_compileAnew_leaves (List.not_mem_nil) (.singleton tag) _ desk).imp
  · exact fun _ _ leaves => leaves
  · exact fun _ _ failed => failed.imp_right fun found => found.2.2
  · intro inner fresh _ includes
    exact ends_compileUnder_leaves c _ inner fresh
      (@Library.isChain_concat _ [] _ _ (.singleton tag) includes)

def Creates (c : Compiler σ) (block : String) (s : Statement) : Prop :=
  ∃ conn conn', Statement.create c.connection c.style c.placement block conn = .ok s conn'

def creating (c : Compiler σ) : c.Making where
  Known := fun _ => c.Creates
  Moves := fun _ _ => True
  refl := fun _ => trivial
  trans := fun _ _ => trivial
  known_of_moves := fun known _ => known
  makes := fun _ conn => (ends_self _ conn).imp
    (fun _ conn' made => ⟨trivial, fun _ => ⟨conn, conn', made⟩⟩) fun _ _ _ => trivial

variable {tag : String}

/-- The tags being compiled when the call failed, the requested one first, have no chain; every
chain that counted still counts, and a new one is that of its tag's template. -/
theorem get_failed {e : Error} (failed : c.get tag desk = .error e t) :
    ∃ (way : List String) (added : Journal),
      t.journal = desk.journal ++ added ∧
      (tag :: way).IsChain c.library.Includes ∧
      (∀ other, Journal.Unfinished added other ↔ other ∈ tag :: way) ∧
      (∀ other ∈ tag :: way, c.library.chain? t.cache other = none) ∧
      (∀ other chain, c.library.chain? desk.cache other = some chain →
        c.library.chain? t.cache other = some chain) ∧
      ∀ other chain, c.library.chain? desk.cache other = none →
        c.library.chain? t.cache other = some chain → c.library.ChainOf c.Creates other chain := by
  have gets : Ends (c.get tag) desk (fun _ _ => True)
      (fun _ t => ∃ way, Stopped c [] (tag :: way) desk t) := by
    simp only [get, ends_bind, Desk.ends_onCatalog]
    apply Catalog.ends_lookup_leaves []
    intro journal looked
    cases counts : c.library.chain? desk.cache tag with
    | some chain => trivial
    | none =>
      apply (ends_compileUnder_leaves c [] tag (by simp) (.singleton tag) { desk with journal }
        counts).imp
      · exact fun _ _ _ => trivial
      · intro e t stopped
        obtain ⟨way, stopped⟩ := stopped
        exact ⟨way, stopped.after looked⟩
  obtain ⟨steps, -, -⟩ := (ends_get c.creating c.foresees_any tag trivial desk).of_error failed
  obtain ⟨way, walk, ⟨⟨added, noted, unfinished, -⟩, -⟩, unmade⟩ := gets.of_error failed
  refine ⟨way, added, noted, walk, unfinished, unmade, fun other chain => steps.chain?, ?_⟩
  intro other chain none counts
  rcases steps.chain?_or_made counts with counts | made
  · simp [none] at counts
  · exact made

theorem get_failed_outer :
    let c := Book.limitedSetup.recorded.compiler .nested
    let desk : Desk (Connection.Recorded Nat) := ⟨⟨[], []⟩, ⟨0, []⟩⟩
    ∃ e t, c.get "outer" desk = .error e t ∧
    ∃ (way : List String) (added : Journal),
      t.journal = desk.journal ++ added ∧
      ("outer" :: way).IsChain c.library.Includes ∧
      (∀ other, Journal.Unfinished added other ↔ other ∈ "outer" :: way) ∧
      (∀ other ∈ "outer" :: way, c.library.chain? t.cache other = none) ∧
      (∀ other chain, c.library.chain? desk.cache other = some chain →
        c.library.chain? t.cache other = some chain) ∧
      ∀ other chain, c.library.chain? desk.cache other = none →
        c.library.chain? t.cache other = some chain →
        c.library.ChainOf c.Creates other chain := by
  intro c desk
  have fails : Ends (c.get "outer") desk (fun _ _ => False) (fun _ _ => True) := by
    simp only [get, ends_bind, Desk.ends_onCatalog]
    apply Catalog.ends_lookup
    intro journal
    apply (Book.ends_compile_outer { desk with journal } rfl).imp
    · intro chain t left
      cases left
    · exact fun _ _ _ => trivial
  cases got : c.get "outer" desk with
  | ok chain t => exact (fails.of_ok got).elim
  | error e t => exact ⟨e, t, rfl, get_failed got⟩

end Compiler

end QueryBook
