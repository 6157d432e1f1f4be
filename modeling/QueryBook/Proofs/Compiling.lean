import QueryBook.Proofs.Templates
import Mathlib.Data.List.Nodup

set_option autoImplicit false

namespace QueryBook

namespace Desk

variable {σ α : Type} {desk : Desk σ} {bad : Error → Desk σ → Prop}

@[simp] theorem ends_onCatalog {good : α → Desk σ → Prop} (act : Action Catalog α) :
    Action.Ends (onCatalog act) desk good bad ↔
      Action.Ends act desk.toCatalog (fun a catalog => good a { desk with toCatalog := catalog })
        (fun e catalog => bad e { desk with toCatalog := catalog }) := by
  simp only [onCatalog, Action.ends_focus]

@[simp] theorem ends_onConn {good : α → Desk σ → Prop} (act : Action σ α) :
    Action.Ends (onConn act) desk good bad ↔
      Action.Ends act desk.conn (fun a conn => good a { desk with conn })
        (fun e conn => bad e { desk with conn }) := by
  simp only [onConn, Action.ends_focus]

end Desk

namespace Compiler

variable {σ : Type} {c : Compiler σ}

def LabelsPass (c : Compiler σ) (s : Statement) : Prop :=
  (c.warnBareColumns && s.kind = .zeroOrMore && s.marked.directNames.isEmpty) = true →
    ∀ name text, c.parse c.dialect s.sql ≠ .broken name text

theorem ends_bareLabels {parsed : Parsed} {catalog : Catalog} {good : List String → Catalog → Prop}
    {bad : Error → Catalog → Prop}
    (passed : (∀ name text, parsed ≠ .broken name text) →
      ∀ labels journal, good labels ⟨catalog.cache, journal⟩)
    (broken : ∀ name text, parsed = .broken name text → bad (.analysis name text) catalog) :
    Action.Ends parsed.bareLabels catalog good bad := by
  cases parsed with
  | query star labels => cases star <;> exact passed (by simp) _ catalog.journal
  | other => exact passed (by simp) _ catalog.journal
  | unparsed reason => exact passed (by simp) _ _
  | broken name text => exact broken name text rfl

theorem ends_checkLabels {tag : String} {s : Statement} {desk : Desk σ}
    {good : Unit → Desk σ → Prop} {bad : Error → Desk σ → Prop}
    (passed : ∀ journal, c.LabelsPass s → good () { desk with journal })
    (broken : ∀ name text, c.parse c.dialect s.sql = .broken name text →
      ¬ c.LabelsPass s → bad (.analysis name text) desk) :
    Action.Ends (c.checkLabels tag s) desk good bad := by
  unfold checkLabels
  split
  next looked =>
    simp only [Action.ends_bind, Desk.ends_onCatalog]
    apply ends_bareLabels
    · intro whole labels journal
      split
      · simp only [Desk.ends_onCatalog, Catalog.note, Action.ends_modify]
        exact passed _ fun _ => whole
      · exact passed journal fun _ => whole
    · exact fun name text broke => broken name text broke fun passes =>
        passes looked name text broke
  next unseen => exact passed desk.journal fun looked => absurd looked unseen

structure Making (c : Compiler σ) where
  Known : σ → String → Statement → Prop
  Moves : σ → σ → Prop
  refl : ∀ s, Moves s s
  trans : ∀ {s t u}, Moves s t → Moves t u → Moves s u
  known_of_moves : ∀ {s t block st}, Known s block st → Moves s t → Known t block st
  makes : ∀ block s, Action.Ends (Statement.create c.connection c.style c.placement block) s
    (fun st t => Moves s t ∧ (c.LabelsPass st → Known t block st)) (fun _ t => Moves s t)

-- One thing that happens on a desk while chains are made. No chain that counts is lost.
inductive Step (m : c.Making) : Desk σ → Desk σ → Prop where
  | asked (desk : Desk σ) (conn : σ) (journal : Journal) (moved : m.Moves desk.conn conn) :
    Step m desk { desk with conn, journal }
  | found (desk : Desk σ) (tag : String) (source : Source)
      (resolved : (c.library.shelf.resolve c.library.tree tag).result = .ok source)
      (unmade : c.library.chain? desk.cache tag = none) :
    Step m desk
      { desk with cache := desk.cache.put tag ⟨source, c.library.fingerprint source, none⟩ }
  | stored (desk : Desk σ) (tag : String) (source : Source) (chain : Chain)
      (resolved : (c.library.shelf.resolve c.library.tree tag).result = .ok source)
      (unmade : c.library.chain? desk.cache tag = none)
      (made : c.library.ChainOf (m.Known desk.conn) tag chain)
      (inner : ∀ inner ∈ chain.includes, (c.library.chain? desk.cache inner).isSome) :
    Step m desk
      { desk with cache := desk.cache.put tag ⟨source, c.library.fingerprint source, some chain⟩ }

abbrev Steps (m : c.Making) : Desk σ → Desk σ → Prop :=
  Relation.ReflTransGen (Step m)

variable {m : c.Making} {desk t : Desk σ}

theorem Steps.moves (steps : Steps m desk t) : m.Moves desk.conn t.conn := by
  induction steps with
  | refl => exact m.refl _
  | tail _ step ih =>
    cases step with
    | asked _ _ moved => exact m.trans ih moved
    | found => exact ih
    | stored => exact ih

theorem ne_of_counts {library : Library} {cache : Cache} {tag other : String} {chain : Chain}
    (counts : library.chain? cache tag = some chain) (unmade : library.chain? cache other = none) :
    tag ≠ other := by
  intro same
  subst same
  rw [counts] at unmade
  cases unmade

theorem Step.chain? {tag : String} {chain : Chain} (step : Step m desk t)
    (counts : c.library.chain? desk.cache tag = some chain) :
    c.library.chain? t.cache tag = some chain := by
  cases step with
  | asked => exact counts
  | found other source resolved unmade =>
    simpa only [Library.chain?_put_of_ne (ne_of_counts counts unmade)] using counts
  | stored other source chain' resolved unmade =>
    simpa only [Library.chain?_put_of_ne (ne_of_counts counts unmade)] using counts

theorem Steps.chain? {tag : String} {chain : Chain} (steps : Steps m desk t)
    (counts : c.library.chain? desk.cache tag = some chain) :
    c.library.chain? t.cache tag = some chain := by
  induction steps with
  | refl => exact counts
  | tail _ step ih => exact step.chain? ih

theorem Step.chain?_or_made {tag : String} {chain : Chain} (step : Step m desk t)
    (counts : c.library.chain? t.cache tag = some chain) :
    c.library.chain? desk.cache tag = some chain ∨
      c.library.ChainOf (m.Known t.conn) tag chain := by
  cases step with
  | asked => exact .inl counts
  | found => exact .inl (Library.chain?_of_found counts)
  | stored other source chain' resolved unmade made =>
    rw [Library.chain?_stored resolved] at counts
    split at counts
    next same =>
      cases counts
      exact .inr (same ▸ made)
    next => exact .inl counts

theorem Steps.chain?_or_made {tag : String} {chain : Chain} (steps : Steps m desk t)
    (counts : c.library.chain? t.cache tag = some chain) :
    c.library.chain? desk.cache tag = some chain ∨
      c.library.ChainOf (m.Known t.conn) tag chain := by
  induction steps with
  | refl => exact .inl counts
  | tail earlier step ih =>
    rcases step.chain?_or_made counts with counts | made
    · have moved := Steps.moves (.single step)
      exact (ih counts).imp_right fun made => made.imp fun _ _ known => m.known_of_moves known moved
    · exact .inr made

def Kept (m : c.Making) (desk : Desk σ) : Prop :=
  ∀ tag chain, c.library.chain? desk.cache tag = some chain →
    c.library.ChainOf (m.Known desk.conn) tag chain

theorem Steps.kept (steps : Steps m desk t) (kept : Kept m desk) : Kept m t := by
  intro tag chain counts
  rcases steps.chain?_or_made counts with counts | made
  · exact (kept tag chain counts).imp fun _ _ known => m.known_of_moves known steps.moves
  · exact made

theorem Step.kept (step : Step m desk t) (kept : Kept m desk) : Kept m t :=
  Steps.kept (.single step) kept

def makeStatement (c : Compiler σ) (tag block : String) : Action (Desk σ) Statement := do
  let s ← Desk.onConn (Statement.create c.connection c.style c.placement block)
  c.checkLabels tag s
  pure s

-- Whatever a compiler finds wrong with a tag that is `Fine`, the error is as `Bad` says, once it
-- has been put down to the tag.
structure Foresees (c : Compiler σ) (Fine : String → Prop) (Bad : Error → Prop) : Prop where
  inward : ∀ {tag inner}, Fine tag → c.library.Includes tag inner → Fine inner
  missing : ∀ {tag e}, Fine tag → c.library.template tag = .error e → Bad e
  malformed : ∀ {tag block e}, Fine tag → c.library.HasBlock tag block →
    Template.includedTag block = .error e → Bad (e.blame tag)
  cyclic : ∀ {path tag inner}, Fine tag → (path ++ [tag]).IsChain c.library.Includes →
    (path ++ [tag]).Nodup → c.library.Includes tag inner → inner ∈ path ++ [tag] →
    Bad (.includeCycle (path ++ [tag] ++ [inner]))
  statement : ∀ {tag block}, Fine tag → c.library.HasBlock tag block →
    Template.includedTag block = .ok none → ∀ desk,
    Action.Ends (c.makeStatement tag block) desk (fun _ _ => True) (fun e _ => Bad (e.blame tag))
  blame : ∀ {e} tag, Bad e → Bad (e.blame tag)

-- The desk has gone through steps that leave the entries of the path alone.
structure Apart (m : c.Making) (path : List String) (desk t : Desk σ) : Prop where
  steps : Steps m desk t
  same : ∀ tag ∈ path, t.cache.get? tag = desk.cache.get? tag

theorem Apart.refl (m : c.Making) (path : List String) (desk : Desk σ) : Apart m path desk desk :=
  ⟨.refl, fun _ _ => rfl⟩

theorem Apart.trans {path : List String} {desk t u : Desk σ} (first : Apart m path desk t)
    (second : Apart m path t u) : Apart m path desk u :=
  ⟨first.steps.trans second.steps,
    fun tag member => (second.same tag member).trans (first.same tag member)⟩

theorem Apart.of_step {path : List String} (step : Step m desk t) (same : t.cache = desk.cache) :
    Apart m path desk t :=
  ⟨.single step, fun _ _ => by rw [same]⟩

theorem ends_makeStatement (m : c.Making) (path : List String) (tag block : String)
    (desk : Desk σ) :
    Action.Ends (c.makeStatement tag block) desk
      (fun s t => Apart m path desk t ∧ m.Known t.conn block s)
      (fun _ t => Apart m path desk t) := by
  simp only [makeStatement, Action.ends_bind, Desk.ends_onConn, Action.ends_pure]
  apply (m.makes block desk.conn).imp
  · intro s conn ended
    obtain ⟨moved, known⟩ := ended
    apply ends_checkLabels
    · exact fun journal passes => ⟨.of_step (.asked desk conn journal moved) rfl, known passes⟩
    · exact fun _ _ _ _ => .of_step (.asked desk conn desk.journal moved) rfl
  · exact fun _ conn moved => .of_step (.asked desk conn desk.journal moved) rfl

structure Entered (m : c.Making) (desk : Desk σ) (block : String) (entry : ChainEntry) : Prop where
  made : EntryOf (m.Known desk.conn) block entry
  counts : ∀ inner, entry = .inclusion inner → (c.library.chain? desk.cache inner).isSome

theorem Entered.of_steps {block : String} {entry : ChainEntry}
    (entered : Entered m desk block entry) (steps : Steps m desk t) : Entered m t block entry where
  made := entered.made.imp fun _ known => m.known_of_moves known steps.moves
  counts := by
    intro inner same
    obtain ⟨chain, counts⟩ := Option.isSome_iff_exists.mp (entered.counts inner same)
    simp [steps.chain? counts]

section Recursion

variable {Fine : String → Prop} {Bad : Error → Prop}

def Compiles (m : c.Making) (Bad : Error → Prop) (path : List String) (tag : String)
    (act : Action (Desk σ) Chain) : Prop :=
  ∀ desk, c.library.chain? desk.cache tag = none →
    Action.Ends act desk
      (fun chain t => Apart m path desk t ∧ c.library.chain? t.cache tag = some chain ∧
        c.library.ChainOf (m.Known t.conn) tag chain)
      (fun e t => Apart m path desk t ∧ Bad e)

theorem compileBlock_of_statement {path : List String} {tag block : String}
    {includeTag : (inner : String) → inner ∉ path → Action (Desk σ) Chain}
    (plain : Template.includedTag block = .ok none) :
    c.compileBlock tag path includeTag block = .statement <$> c.makeStatement tag block := by
  funext desk
  simp only [compileBlock, plain, Action.ofExcept, makeStatement, bind, EStateM.bind, pure,
    EStateM.pure, Functor.map, EStateM.map]
  cases Desk.onConn (Statement.create c.connection c.style c.placement block) desk with
  | error e t => rfl
  | ok s t =>
    simp only
    cases c.checkLabels tag s t <;> rfl

theorem ends_compileBlock (m : c.Making) (foreseen : c.Foresees Fine Bad) {path : List String}
    {tag block : String} (walk : (path ++ [tag]).IsChain c.library.Includes)
    (distinct : (path ++ [tag]).Nodup) (fine : Fine tag) (held : c.library.HasBlock tag block)
    (includeTag : (inner : String) → inner ∉ path ++ [tag] → Action (Desk σ) Chain)
    (recursion : ∀ inner fresh, c.library.Includes tag inner →
      Compiles m Bad (path ++ [tag]) inner (includeTag inner fresh)) (desk : Desk σ) :
    Action.Ends (c.compileBlock tag (path ++ [tag]) includeTag block) desk
      (fun entry t => Apart m (path ++ [tag]) desk t ∧ Entered m t block entry)
      (fun e t => Apart m (path ++ [tag]) desk t ∧ Bad (e.blame tag)) := by
  cases named : Template.includedTag block with
  | error e =>
    simp only [compileBlock, named, Action.ends_bind, Action.ends_ofExcept]
    exact ⟨.refl m _ desk, foreseen.malformed fine held named⟩
  | ok target =>
    cases target with
    | none =>
      rw [compileBlock_of_statement named, Action.ends_map]
      apply ((ends_makeStatement m (path ++ [tag]) tag block desk).and
        (foreseen.statement fine held named desk)).imp
      · intro s t ended
        obtain ⟨⟨apart, known⟩, -⟩ := ended
        exact ⟨apart, .statement named known, fun inner other => by cases other⟩
      · exact fun _ _ failed => failed
    | some inner =>
      simp only [compileBlock, named, Action.ends_bind, Action.ends_ofExcept]
      have includes : c.library.Includes tag inner := ⟨block, held, named⟩
      split
      next cyclic =>
        exact ⟨.refl m _ desk, foreseen.cyclic fine walk distinct includes cyclic⟩
      next fresh =>
        simp only [Action.ends_bind, Desk.ends_onCatalog]
        apply Catalog.ends_lookup
        intro journal
        have noted : Apart m (path ++ [tag]) desk { desk with journal } :=
          .of_step (.asked desk desk.conn journal (m.refl _)) rfl
        cases counts : c.library.chain? desk.cache inner with
        | some chain =>
          refine ⟨noted, .inclusion named, ?_⟩
          intro _ member
          cases member
          simp [counts]
        | none =>
          simp only [Action.ends_bind, Action.ends_discard, Action.ends_pure]
          apply (recursion inner fresh includes { desk with journal } counts).imp
          · intro chain t ended
            obtain ⟨apart, made, -⟩ := ended
            refine ⟨noted.trans apart, .inclusion named, ?_⟩
            intro _ member
            cases member
            simp [made]
          · intro e t failed
            obtain ⟨apart, failed⟩ := failed
            exact ⟨noted.trans apart, foreseen.blame tag failed⟩

def compileBody (c : Compiler σ) (path : List String) (tag body : String) :
    Action (Desk σ) Chain := do
  Desk.onCatalog (Catalog.note (.ofTag "compiler" ("PREPARE " ++ tag) tag))
  let entries ← (Template.statements body).mapM fun block =>
    Action.mapError (Error.blame tag) <|
      c.compileBlock tag (path ++ [tag])
        (fun inner fresh => c.compileUnder (path ++ [tag]) inner fresh) block
  Desk.onCatalog (Catalog.store c.library tag ⟨tag, entries⟩)
  pure ⟨tag, entries⟩

theorem compileUnder_eq (c : Compiler σ) (path : List String) (tag : String) (fresh : tag ∉ path) :
    c.compileUnder path tag fresh =
      Desk.onCatalog (Catalog.find c.library tag) >>= c.compileBody path tag := by
  funext desk
  rw [compileUnder]
  split
  next e after missing => simp only [bind, EStateM.bind, missing]
  next body after found =>
    change c.compileBody path tag body after = _
    simp only [bind, EStateM.bind, found]

theorem nodup_concat {path : List String} {tag : String} (distinct : path.Nodup)
    (fresh : tag ∉ path) : (path ++ [tag]).Nodup := by
  rw [← List.concat_eq_append]
  exact distinct.concat fresh

theorem ends_compileBody (m : c.Making) (foreseen : c.Foresees Fine Bad) {path : List String}
    {tag body : String} {source : Source} (distinct : path.Nodup) (fresh : tag ∉ path)
    (walk : (path ++ [tag]).IsChain c.library.Includes) (fine : Fine tag)
    (found : c.library.template tag = .ok body)
    (resolved : (c.library.shelf.resolve c.library.tree tag).result = .ok source)
    (recursion : ∀ inner fresh, c.library.Includes tag inner →
      Compiles m Bad (path ++ [tag]) inner (c.compileUnder (path ++ [tag]) inner fresh))
    (desk : Desk σ)
    (entry : desk.cache.get? tag = some ⟨source, c.library.fingerprint source, none⟩) :
    Action.Ends (c.compileBody path tag body) desk
      (fun chain t => Apart m path desk t ∧ c.library.chain? t.cache tag = some chain ∧
        c.library.ChainOf (m.Known t.conn) tag chain)
      (fun e t => Apart m path desk t ∧ Bad e) := by
  simp only [compileBody, Action.ends_bind, Desk.ends_onCatalog, Catalog.note, Action.ends_modify]
  have entries (desk : Desk σ) :
      Action.Ends ((Template.statements body).mapM fun block =>
          Action.mapError (Error.blame tag) <|
            c.compileBlock tag (path ++ [tag])
              (fun inner fresh => c.compileUnder (path ++ [tag]) inner fresh) block) desk
        (fun entries t => Apart m (path ++ [tag]) desk t ∧
          List.Forall₂ (Entered m t) (Template.statements body) entries)
        (fun e t => Apart m (path ++ [tag]) desk t ∧ Bad e) := by
    apply Action.ends_mapM (Apart.refl m _) Apart.trans
    · exact fun entered apart => entered.of_steps apart.steps
    · intro block member t _
      rw [Action.ends_mapError]
      exact ends_compileBlock m foreseen walk (nodup_concat distinct fresh) fine
        ⟨body, found, member⟩ _ recursion t
  have noted (journal : Journal) : Apart m path desk { desk with journal } :=
    .of_step (.asked desk desk.conn journal (m.refl _)) rfl
  have above {t u : Desk σ} (apart : Apart m (path ++ [tag]) t u) : Apart m path t u :=
    ⟨apart.steps, fun other member => apart.same other (by simp [member])⟩
  apply (entries _).imp
  · intro entries t ended
    obtain ⟨apart, entered⟩ := ended
    have held : t.cache.get? tag = some ⟨source, c.library.fingerprint source, none⟩ :=
      (apart.same tag (by simp)).trans entry
    have made : c.library.ChainOf (m.Known t.conn) tag ⟨tag, entries⟩ :=
      ⟨rfl, body, found, entered.imp fun _ _ entered => entered.made⟩
    have inner : ∀ inner ∈ Chain.includes ⟨tag, entries⟩,
        (c.library.chain? t.cache inner).isSome := by
      intro inner member
      rw [Library.mem_includes] at member
      obtain ⟨block, -, entered⟩ := Library.exists_of_mem_forall₂ entered member
      exact entered.counts inner rfl
    have unmade : c.library.chain? t.cache tag = none := by
      simp [Library.chain?, held]
    refine Catalog.ends_store held fun journal => ?_
    have stored := Step.stored t tag source ⟨tag, entries⟩ resolved unmade made inner
    refine ⟨((noted _).trans (above apart)).trans ⟨.tail (.single stored)
      (.asked _ t.conn journal (m.refl _)), ?_⟩, ?_, made⟩
    · intro other member
      have different : other ≠ tag := fun same => fresh (same ▸ member)
      simp [Keyed.get?_put_of_ne _ _ different]
    · simp [Library.chain?_stored resolved]
  · intro e t failed
    obtain ⟨apart, failed⟩ := failed
    exact ⟨(noted _).trans (above apart), failed⟩

theorem ends_compileUnder (m : c.Making) (foreseen : c.Foresees Fine Bad) (path : List String)
    (distinct : path.Nodup) (tag : String) (fresh : tag ∉ path)
    (walk : (path ++ [tag]).IsChain c.library.Includes) (fine : Fine tag) :
    Compiles m Bad path tag (c.compileUnder path tag fresh) := by
  induction room : (c.library.remaining path).length using Nat.strongRecOn
    generalizing path tag with
  | ind room ih =>
    intro desk unmade
    rw [compileUnder_eq]
    simp only [Action.ends_bind, Desk.ends_onCatalog]
    apply Catalog.ends_find
    · intro body source journal found resolved
      have less := Library.length_remaining_lt (Shelf.mem_findable resolved) fresh
      have recursion (inner : String) (fresh' : inner ∉ path ++ [tag])
          (includes : c.library.Includes tag inner) :
          Compiles m Bad (path ++ [tag]) inner (c.compileUnder (path ++ [tag]) inner fresh') :=
        ih _ (room ▸ less) (path ++ [tag]) (nodup_concat distinct fresh) inner fresh'
          (Library.isChain_concat walk includes) (foreseen.inward fine includes) rfl
      have reached : Apart m path desk
          { desk with
            cache := desk.cache.put tag ⟨source, c.library.fingerprint source, none⟩
            journal } := by
        refine ⟨.tail (.single (.asked desk desk.conn journal (m.refl _)))
          (.found { desk with journal } tag source resolved unmade), fun other member => ?_⟩
        have different : other ≠ tag := fun same => fresh (same ▸ member)
        simp [Keyed.get?_put_of_ne _ _ different]
      apply (ends_compileBody m foreseen distinct fresh walk fine found resolved recursion _
        (by simp)).imp
      · intro chain t ended
        obtain ⟨apart, made⟩ := ended
        exact ⟨reached.trans apart, made⟩
      · intro e t failed
        obtain ⟨apart, failed⟩ := failed
        exact ⟨reached.trans apart, failed⟩
    · intro e journal missing
      exact ⟨.of_step (.asked desk desk.conn journal (m.refl _)) rfl, foreseen.missing fine missing⟩

-- A tag that is compiled again loses the chain that it had.
theorem ends_compile (m : c.Making) (foreseen : c.Foresees Fine Bad) (tag : String)
    (fine : Fine tag) (desk : Desk σ) :
    Action.Ends (c.compile tag) desk
      (fun chain t =>
        (∃ source journal, (c.library.shelf.resolve c.library.tree tag).result = .ok source ∧
          Steps m { desk with
            cache := desk.cache.put tag ⟨source, c.library.fingerprint source, none⟩, journal } t) ∧
        c.library.chain? t.cache tag = some chain ∧ c.library.ChainOf (m.Known t.conn) tag chain)
      (fun e t =>
        (Steps m desk t ∨
          ∃ source journal, (c.library.shelf.resolve c.library.tree tag).result = .ok source ∧
          Steps m { desk with
            cache := desk.cache.put tag ⟨source, c.library.fingerprint source, none⟩, journal } t) ∧
        Bad e) := by
  rw [compile, compileUnder_eq]
  simp only [Action.ends_bind, Desk.ends_onCatalog]
  apply Catalog.ends_find
  · intro body source journal found resolved
    have recursion (inner : String) (fresh : inner ∉ [] ++ [tag])
        (includes : c.library.Includes tag inner) :
        Compiles m Bad ([] ++ [tag]) inner (c.compileUnder ([] ++ [tag]) inner fresh) :=
      ends_compileUnder m foreseen _ (by simp) inner fresh
        (@Library.isChain_concat _ [] _ _ (.singleton tag) includes)
        (foreseen.inward fine includes)
    apply (@ends_compileBody _ _ _ _ m foreseen [] _ _ _ .nil (by simp) (.singleton tag) fine
      found resolved recursion _ (by simp)).imp
    · intro chain t ended
      obtain ⟨apart, made⟩ := ended
      exact ⟨⟨source, journal, resolved, apart.steps⟩, made⟩
    · intro e t failed
      obtain ⟨apart, failed⟩ := failed
      exact ⟨.inr ⟨source, journal, resolved, apart.steps⟩, failed⟩
  · intro e journal missing
    exact ⟨.inl (.single (.asked desk desk.conn journal (m.refl _))), foreseen.missing fine missing⟩

theorem ends_get_missing {tag : String} {e : Error}
    (unmade : c.library.chain? desk.cache tag = none) (missing : c.library.template tag = .error e) :
    Action.Ends (c.get tag) desk (fun _ _ => False) (fun e' _ => e' = e) := by
  simp only [get, Action.ends_bind, Desk.ends_onCatalog]
  apply Catalog.ends_lookup
  intro journal
  simp only [unmade, compile, compileUnder_eq, Action.ends_bind, Desk.ends_onCatalog]
  apply Catalog.ends_find
  · intro body source journal found
    simp [missing] at found
  · intro e' journal failed
    rw [missing, Except.error.injEq] at failed
    exact failed.symm

theorem ends_get (m : c.Making) (foreseen : c.Foresees Fine Bad) (tag : String) (fine : Fine tag)
    (desk : Desk σ) :
    Action.Ends (c.get tag) desk
      (fun chain t => Steps m desk t ∧ c.library.chain? t.cache tag = some chain)
      (fun e t => Steps m desk t ∧ c.library.chain? desk.cache tag = none ∧ Bad e) := by
  simp only [get, Action.ends_bind, Desk.ends_onCatalog]
  apply Catalog.ends_lookup
  intro journal
  have noted : Steps m desk { desk with journal } :=
    .single (.asked desk desk.conn journal (m.refl _))
  cases counts : c.library.chain? desk.cache tag with
  | some chain => exact ⟨noted, counts⟩
  | none =>
    apply (ends_compileUnder m foreseen [] .nil tag (by simp) (.singleton tag) fine
      { desk with journal } counts).imp
    · intro chain t ended
      obtain ⟨apart, made, -⟩ := ended
      exact ⟨noted.trans apart.steps, made⟩
    · intro e t failed
      obtain ⟨apart, failed⟩ := failed
      exact ⟨noted.trans apart.steps, rfl, failed⟩

end Recursion

end Compiler

end QueryBook
