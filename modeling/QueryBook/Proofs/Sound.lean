import QueryBook.Proofs.Compiling
import QueryBook.Proofs.PlainText

set_option autoImplicit false

namespace QueryBook

namespace Library

variable {library : Library} {fine : String → Prop} {tag inner : String}

inductive Sound (library : Library) (fine : String → Prop) : String → Prop where
  | intro {tag body : String} (found : library.template tag = .ok body)
    (blocks : ∀ block ∈ Template.statements body, ∃ target,
      Template.includedTag block = .ok target)
    (statements : ∀ block ∈ Template.statements body,
      Template.includedTag block = .ok none → fine block)
    (inward : ∀ inner, library.Includes tag inner → Sound library fine inner) :
    Sound library fine tag

theorem Sound.inward (sound : library.Sound fine tag) (includes : library.Includes tag inner) :
    library.Sound fine inner := by
  cases sound with
  | intro _ _ _ sounds => exact sounds inner includes

theorem Sound.fine_of_hasBlock {block : String} (sound : library.Sound fine tag)
    (held : library.HasBlock tag block) (plain : Template.includedTag block = .ok none) :
    fine block := by
  obtain ⟨body, found, member⟩ := held
  cases sound with
  | intro found' _ statements =>
    rw [found, Except.ok.injEq] at found'
    exact statements block (found' ▸ member) plain

theorem Sound.of_reflTransGen (sound : library.Sound fine tag)
    (reaches : Relation.ReflTransGen library.Includes tag inner) : library.Sound fine inner := by
  induction reaches with
  | refl => exact sound
  | tail _ includes ih => exact ih.inward includes

-- A way back to the tag would be a way back to the first tag on it.
theorem Sound.acyclic (sound : library.Sound fine tag) :
    ¬ Relation.TransGen library.Includes tag tag := by
  induction sound with
  | intro _ _ _ _ ih =>
    intro cycle
    obtain ⟨first, includes, back⟩ := Relation.TransGen.head'_iff.mp cycle
    exact ih first includes (.tail' back includes)

theorem Sound.of_chainOf {known : String → Statement → Prop} {chain : Chain}
    (chainOf : library.ChainOf known tag chain) (knows : ∀ block s, known block s → fine block)
    (inward : ∀ inner ∈ chain.includes, library.Sound fine inner) : library.Sound fine tag := by
  obtain ⟨body, found, -⟩ := chainOf.blocks
  refine .intro found ?_ ?_ fun inner includes =>
    inward inner (chainOf.mem_includes_iff.mpr includes)
  · intro block member
    obtain ⟨entry, entryOf⟩ := chainOf.exists_entryOf ⟨body, found, member⟩
    cases entryOf with
    | inclusion named => exact ⟨_, named⟩
    | statement plain => exact ⟨_, plain⟩
  · intro block member plain
    obtain ⟨entry, entryOf⟩ := chainOf.exists_entryOf ⟨body, found, member⟩
    cases entryOf with
    | inclusion named =>
      rw [plain] at named
      cases named
    | statement _ known => exact knows block _ known

theorem reflTransGen_of_mem {path : List String}
    (walk : (path ++ [tag]).IsChain library.Includes) (met : inner ∈ path ++ [tag]) :
    Relation.ReflTransGen library.Includes inner tag := by
  obtain ⟨front, back, split⟩ := List.append_of_mem met
  rw [split] at walk
  apply List.relationReflTransGen_of_exists_isChain_cons back walk.right_of_append
  have last : (front ++ inner :: back).getLast? = some tag := by
    rw [← split]
    simp
  rw [List.getLast?_append_of_ne_nil _ (by simp), List.getLast?_eq_some_getLast (by simp)] at last
  simpa using last

theorem transGen_of_mem {stack : List String}
    (walk : (stack ++ [tag]).IsChain library.Includes) (met : tag ∈ stack) :
    Relation.TransGen library.Includes tag tag := by
  rcases List.eq_nil_or_concat stack with rfl | ⟨path, last, rfl⟩
  · cases met
  · simp only [List.concat_eq_append] at walk met
    have back := reflTransGen_of_mem walk.left_of_append met
    have includes : library.Includes last tag := by
      rw [List.append_assoc] at walk
      simpa using walk.right_of_append
    exact .tail' back includes

def nested : Library where
  shelf := .memory (.ofList [("outer", "include inner"), ("inner", "x")])
  tree := .empty

theorem statements_outer : Template.statements "include inner" = ["include inner"] := by
  rw [Template.statements_of_line (by decide) (by decide)]
  decide

theorem statements_inner : Template.statements "x" = ["x"] := by
  rw [Template.statements_of_line (by decide) (by decide)]
  decide

theorem hasBlock_nested {block : String} (held : nested.HasBlock tag block) :
    tag = "outer" ∧ block = "include inner" ∨ tag = "inner" ∧ block = "x" := by
  obtain ⟨body, found, member⟩ := held
  by_cases outer : tag = "outer"
  · subst outer
    cases found
    rw [statements_outer] at member
    exact .inl ⟨rfl, List.mem_singleton.mp member⟩
  · by_cases inner : tag = "inner"
    · subst inner
      cases found
      rw [statements_inner] at member
      exact .inr ⟨rfl, List.mem_singleton.mp member⟩
    · simp [template, nested, Shelf.resolve, MemoryShelf.ofList, MemoryShelf.empty, MemoryShelf.add,
        Keyed.put, Keyed.get?, Ne.symm outer, Ne.symm inner] at found

theorem includes_nested : nested.Includes tag inner ↔ tag = "outer" ∧ inner = "inner" := by
  constructor
  · intro held
    obtain ⟨block, held, named⟩ := held
    rcases hasBlock_nested held with ⟨rfl, rfl⟩ | ⟨rfl, rfl⟩
    · cases named
      exact ⟨rfl, rfl⟩
    · cases named
  · intro same
    obtain ⟨rfl, rfl⟩ := same
    exact ⟨"include inner", ⟨"include inner", rfl, by simp [statements_outer]⟩, rfl⟩

theorem sound_nested (fineInner : fine "x") : nested.Sound fine "outer" := by
  have inner : nested.Sound fine "inner" := by
    refine @Sound.intro nested fine "inner" "x" rfl ?_ ?_ ?_
    · simp only [statements_inner, List.mem_singleton, forall_eq]
      exact ⟨none, rfl⟩
    · simp only [statements_inner, List.mem_singleton, forall_eq]
      exact fun _ => fineInner
    · intro inner includes
      have other := (includes_nested.mp includes).1
      simp at other
  refine @Sound.intro nested fine "outer" "include inner" rfl ?_ ?_ ?_
  · simp only [statements_outer, List.mem_singleton, forall_eq]
    exact ⟨some "inner", rfl⟩
  · simp only [statements_outer, List.mem_singleton, forall_eq]
    intro plain
    cases plain
  · intro inner' includes
    obtain ⟨-, rfl⟩ := includes_nested.mp includes
    exact inner

end Library

namespace Compiler

variable {σ : Type} {c : Compiler σ} {fine : String → Prop} {Bad : Error → Prop}

theorem foresees_of_sound
    (statement : ∀ tag block desk, fine block →
      Action.Ends (c.makeStatement tag block) desk (fun _ _ => True) (fun e _ => Bad e))
    (blame : ∀ {e} tag, Bad e → Bad (e.blame tag)) : c.Foresees (c.library.Sound fine) Bad where
  inward := Library.Sound.inward
  missing := by
    intro tag e sound missing
    cases sound with
    | intro found =>
      rw [found] at missing
      cases missing
  malformed := by
    intro tag block e sound held malformed
    obtain ⟨body, found, member⟩ := held
    cases sound with
    | intro found' blocks =>
      rw [found, Except.ok.injEq] at found'
      obtain ⟨target, named⟩ := blocks block (found' ▸ member)
      rw [malformed] at named
      cases named
  cyclic := by
    intro path tag inner sound walk _ includes met
    exact absurd (.tail' (Library.reflTransGen_of_mem walk met) includes)
      (sound.inward includes).acyclic
  statement := by
    intro tag block sound held plain desk
    apply (statement tag block desk (sound.fine_of_hasBlock held plain)).imp
    · exact fun _ _ _ => trivial
    · exact fun _ _ bad => blame tag bad
  blame := blame

def Vouched (c : Compiler σ) (fine : String → Prop) (desk : Desk σ) : Prop :=
  ∀ tag chain, c.library.chain? desk.cache tag = some chain → c.library.Sound fine tag

variable {m : c.Making} {desk t : Desk σ}

theorem vouched_of_fresh (fresh : desk.cache = []) : c.Vouched fine desk := by
  intro tag chain counts
  simp [fresh] at counts

-- A new chain is stored when all that it includes has chains already.
theorem Step.vouched (knows : ∀ s block st, m.Known s block st → fine block)
    (step : Step m desk t) (vouched : c.Vouched fine desk) : c.Vouched fine t := by
  intro tag chain counts
  cases step with
  | asked => exact vouched tag chain counts
  | found => exact vouched tag chain (Library.chain?_of_found counts)
  | stored other source chain' resolved unmade made inner =>
    rw [Library.chain?_stored resolved] at counts
    split at counts
    next same =>
      subst same
      apply Library.Sound.of_chainOf made (knows desk.conn)
      intro within member
      obtain ⟨chain'', counts'⟩ := Option.isSome_iff_exists.mp (inner within member)
      exact vouched within chain'' counts'
    next => exact vouched tag chain counts

section Nested

variable {good : Statement → Desk σ → Prop} {bad : Error → Desk σ → Prop}

theorem ends_makeStatement_plain (tag : String) (unwarned : c.warnBareColumns = false)
    {desk : Desk σ}
    (prepares : let marked := MarkedText.ofText (c.style.getD c.connection.style) "x"
      Action.Ends (c.connection.prepare marked.sql marked.bindNames.length) desk.conn
        (fun h conn => good ⟨"x", .mutation, marked, c.placement, some h⟩ { desk with conn })
        (fun f conn => bad (.wrapFault (some marked.sql) f) { desk with conn })) :
    Action.Ends (c.makeStatement tag "x") desk good bad := by
  have plain : (MarkedText.ofText (c.style.getD c.connection.style) "x").needsSubstitution =
      false :=
    MarkedText.needsSubstitution_of_plain (by decide)
  have classified : StatementKind.classify "x" = .ok (.mutation, "x") := rfl
  simp only [makeStatement, checkLabels, Statement.create, classified, Action.ends_bind,
    Desk.ends_onConn, Action.ends_ofExcept, plain, Bool.false_eq_true, if_false,
    Statement.prepareText, Action.ends_request, Action.ends_pure, unwarned, Bool.false_and]
  exact prepares

theorem ends_compileUnder_single {tag block : String}
    (single : c.library.template tag = .ok block) (alone : Template.statements block = [block])
    (plain : Template.includedTag block = .ok none) (path : List String) (fresh : tag ∉ path)
    {desk : Desk σ} {made : Statement → σ → Prop} {failed : Error → σ → Prop}
    (makes : ∀ catalog, Action.Ends (c.makeStatement tag block) ⟨catalog, desk.conn⟩
      (fun st t => t.cache = catalog.cache ∧ made st t.conn)
      (fun e t => t.cache = catalog.cache ∧ failed (e.blame tag) t.conn)) :
    Action.Ends (c.compileUnder path tag fresh) desk
      (fun chain t => (∃ st, chain = ⟨tag, [.statement st]⟩ ∧ made st t.conn) ∧
        ∃ source, (c.library.shelf.resolve c.library.tree tag).result = .ok source ∧
          t.cache = (desk.cache.put tag ⟨source, c.library.fingerprint source, none⟩).put tag
            ⟨source, c.library.fingerprint source, some chain⟩)
      (fun e t => failed e t.conn ∧ ∃ source, t.cache =
        desk.cache.put tag ⟨source, c.library.fingerprint source, none⟩) := by
  rw [compileUnder_eq, Action.ends_bind, Desk.ends_onCatalog]
  apply Catalog.ends_find
  · intro body source journal found resolved
    obtain rfl : body = block := Except.ok.inj (found.symm.trans single)
    simp only [compileBody, alone, List.mapM_cons, List.mapM_nil, Action.ends_bind,
      Desk.ends_onCatalog, Catalog.note, Action.ends_modify, Action.ends_mapError,
      Action.ends_pure, compileBlock_of_statement plain, Action.ends_map]
    apply (makes _).imp
    · intro st t ended
      obtain ⟨cached, made⟩ := ended
      have held : t.cache.get? tag = some ⟨source, c.library.fingerprint source, none⟩ := by
        rw [cached]
        exact Keyed.get?_put_self ..
      exact Catalog.ends_store held fun _ =>
        ⟨⟨st, rfl, made⟩, source, resolved, by simp only [cached]⟩
    · intro e t failed
      obtain ⟨cached, failed⟩ := failed
      exact ⟨failed, source, cached⟩
  · intro e journal missing
    simp [missing] at single

end Nested

end Compiler

end QueryBook
