import QueryBook.Compile
import QueryBook.Proofs.Ends
import Mathlib.Data.List.Chain
import Mathlib.Logic.Relation

set_option autoImplicit false

namespace QueryBook

inductive EntryOf (known : String → Statement → Prop) : String → ChainEntry → Prop where
  | inclusion {block inner : String} (named : Template.includedTag block = .ok (some inner)) :
    EntryOf known block (.inclusion inner)
  | statement {block : String} {s : Statement} (plain : Template.includedTag block = .ok none)
      (made : known block s) :
    EntryOf known block (.statement s)

theorem EntryOf.imp {known later : String → Statement → Prop} {block : String} {entry : ChainEntry}
    (keeps : ∀ s, known block s → later block s) (entryOf : EntryOf known block entry) :
    EntryOf later block entry := by
  cases entryOf with
  | inclusion named => exact .inclusion named
  | statement plain made => exact .statement plain (keeps _ made)

namespace Library

def template (library : Library) (tag : String) : Except Error String :=
  match (library.shelf.resolve library.tree tag).result with
  | .error e => .error e
  | .ok source => library.shelf.read library.tree tag source

def HasBlock (library : Library) (tag block : String) : Prop :=
  ∃ body, library.template tag = .ok body ∧ block ∈ Template.statements body

def Includes (library : Library) (tag inner : String) : Prop :=
  ∃ block, library.HasBlock tag block ∧ Template.includedTag block = .ok (some inner)

structure ChainOf (library : Library) (known : String → Statement → Prop) (tag : String)
    (chain : Chain) : Prop where
  named : chain.tag = tag
  blocks : ∃ body, library.template tag = .ok body ∧
    List.Forall₂ (EntryOf known) (Template.statements body) chain.entries

theorem ChainOf.imp {library : Library} {known later : String → Statement → Prop} {tag : String}
    {chain : Chain} (chainOf : library.ChainOf known tag chain)
    (keeps : ∀ block s, known block s → later block s) : library.ChainOf later tag chain := by
  obtain ⟨body, found, entries⟩ := chainOf.blocks
  exact ⟨chainOf.named, body, found, entries.imp fun block _ entry => entry.imp (keeps block)⟩

theorem inclusion_mem_iff {known : String → Statement → Prop} {blocks : List String}
    {entries : List ChainEntry} {inner : String}
    (made : List.Forall₂ (EntryOf known) blocks entries) :
    .inclusion inner ∈ entries ↔
      ∃ block ∈ blocks, Template.includedTag block = .ok (some inner) := by
  induction made with
  | nil => simp
  | cons head _ ih =>
    cases head with
    | inclusion named => simp [ih, named, eq_comm]
    | statement plain => simp [ih, plain]

theorem exists_of_mem_forall₂ {α β : Type} {related : α → β → Prop} {xs : List α} {ys : List β}
    {y : β} (pairs : List.Forall₂ related xs ys) (member : y ∈ ys) : ∃ x ∈ xs, related x y := by
  induction pairs with
  | nil => simp at member
  | cons head _ ih =>
    cases member with
    | head => exact ⟨_, by simp, head⟩
    | tail _ member =>
      obtain ⟨x, held, pair⟩ := ih member
      exact ⟨x, List.mem_cons_of_mem _ held, pair⟩

theorem isChain_concat {library : Library} {path : List String} {tag inner : String}
    (walk : (path ++ [tag]).IsChain library.Includes) (includes : library.Includes tag inner) :
    (path ++ [tag] ++ [inner]).IsChain library.Includes := by
  apply walk.append (.singleton inner)
  simp [includes]

theorem mem_includes {chain : Chain} {inner : String} :
    inner ∈ chain.includes ↔ .inclusion inner ∈ chain.entries := by
  simp only [Chain.includes, List.mem_filterMap]
  constructor
  · intro included
    obtain ⟨entry, member, named⟩ := included
    cases entry with
    | statement s => simp at named
    | inclusion tag =>
      simp only [Option.some.injEq] at named
      rwa [← named]
  · exact fun member => ⟨_, member, rfl⟩

theorem ChainOf.mem_includes_iff {library : Library} {known : String → Statement → Prop}
    {tag inner : String} {chain : Chain} (chainOf : library.ChainOf known tag chain) :
    inner ∈ chain.includes ↔ library.Includes tag inner := by
  obtain ⟨body, found, entries⟩ := chainOf.blocks
  rw [mem_includes, inclusion_mem_iff entries]
  constructor
  · intro held
    obtain ⟨block, held, named⟩ := held
    exact ⟨block, ⟨body, found, held⟩, named⟩
  · intro included
    obtain ⟨block, ⟨body', found', held⟩, named⟩ := included
    rw [found, Except.ok.injEq] at found'
    exact ⟨block, found' ▸ held, named⟩

theorem ChainOf.exists_entryOf {library : Library} {known : String → Statement → Prop}
    {tag block : String} {chain : Chain} (chainOf : library.ChainOf known tag chain)
    (held : library.HasBlock tag block) : ∃ entry, EntryOf known block entry := by
  obtain ⟨body, found, entries⟩ := chainOf.blocks
  obtain ⟨body', found', member⟩ := held
  obtain rfl : body = body' := Except.ok.inj (found.symm.trans found')
  obtain ⟨i, bound, rfl⟩ := List.mem_iff_getElem.mp member
  exact ⟨_, entries.get bound (entries.length_eq ▸ bound)⟩

def remembered? (library : Library) (cache : Cache) (tag : String) : Option (Option Chain) :=
  match cache.get? tag with
  | some entry => if library.isCurrent entry then some entry.chain else none
  | none => none

theorem chain?_eq (library : Library) (cache : Cache) (tag : String) :
    library.chain? cache tag = (library.remembered? cache tag).join := by
  unfold chain? remembered?
  cases cache.get? tag with
  | none => rfl
  | some entry => cases current : library.isCurrent entry <;> simp [current]

theorem remembered?_put (library : Library) (cache : Cache) (tag other : String)
    (entry : CacheEntry) :
    library.remembered? (cache.put tag entry) other =
      if other = tag then (if library.isCurrent entry then some entry.chain else none)
      else library.remembered? cache other := by
  unfold remembered?
  rw [Keyed.get?_put]
  by_cases same : other = tag <;> simp [same]

theorem remembered?_erase (library : Library) (cache : Cache) (tag other : String) :
    library.remembered? (cache.erase tag) other =
      if other = tag then none else library.remembered? cache other := by
  unfold remembered?
  by_cases same : other = tag
  · simp [same]
  · simp [same, Keyed.get?_erase_of_ne]

theorem chain?_put (library : Library) (cache : Cache) (tag other : String) (entry : CacheEntry) :
    library.chain? (cache.put tag entry) other =
      if other = tag then (if library.isCurrent entry then entry.chain else none)
      else library.chain? cache other := by
  rw [chain?_eq, chain?_eq, remembered?_put]
  split
  · split <;> rfl
  · rfl

theorem chain?_put_of_ne {library : Library} {cache : Cache} {tag other : String}
    {entry : CacheEntry} (different : other ≠ tag) :
    library.chain? (cache.put tag entry) other = library.chain? cache other := by
  rw [chain?_put, if_neg different]

theorem chain?_found (library : Library) (cache : Cache) (tag other : String) (source : Source) :
    library.chain? (cache.put tag ⟨source, library.fingerprint source, none⟩) other =
      if other = tag then none else library.chain? cache other := by
  rw [chain?_put]
  simp

theorem chain?_erase (library : Library) (cache : Cache) (tag other : String) :
    library.chain? (cache.erase tag) other =
      if other = tag then none else library.chain? cache other := by
  rw [chain?_eq, chain?_eq, remembered?_erase]
  split <;> rfl

@[simp] theorem chain?_nil (library : Library) (tag : String) : library.chain? [] tag = none := rfl

section Counts

variable {library : Library} {cache : Cache} {tag other : String} {source : Source} {chain : Chain}

theorem exists_entry_of_chain? (counts : library.chain? cache tag = some chain) :
    ∃ entry stamp, cache.get? tag = some entry ∧ entry.chain = some chain ∧
      library.fingerprint entry.source = some stamp ∧ entry.fingerprint = some stamp := by
  unfold chain? at counts
  split at counts
  next entry held =>
    split at counts
    next current =>
      unfold isCurrent at current
      split at current
      next stamp stamped => exact ⟨entry, stamp, held, counts, stamped, by simpa using current⟩
      next => cases current
    next => cases counts
  next => cases counts

theorem chain?_of_found (counts : library.chain?
      (cache.put tag ⟨source, library.fingerprint source, none⟩) other = some chain) :
    library.chain? cache other = some chain := by
  rw [chain?_found] at counts
  split at counts
  · cases counts
  · exact counts

theorem chain?_of_erase (counts : library.chain? (cache.erase tag) other = some chain) :
    library.chain? cache other = some chain := by
  rw [chain?_erase] at counts
  split at counts
  · cases counts
  · exact counts

end Counts

end Library

namespace FileShelf

variable {shelf : FileShelf} {tree : FileTree} {tag : String} {path : Path} {stops : List Stop}

theorem stop?_eq_some_iff {stop : Stop} : stop? tree path = some stop ↔
    stop = .file path ∧ tree.offers path = .ok true ∨
      ∃ fault, stop = .refused path fault ∧ tree.offers path = .error fault := by
  unfold stop?
  rcases offered : tree.offers path with fault | (_ | _) <;> simp [eq_comm]

theorem mem_stopsIn_iff {directory place : Path} {stop : Stop} :
    stop ∈ shelf.stopsIn tree directory place ↔
      tree.readable place = true ∧
        (∃ name ∈ tree.namesIn place, Path.isHidden name = false ∧
          shelf.hasExtension name = true ∧ stop? tree (directory ++ [name]) = some stop) ∨
      tree.readable place = false ∧ stop = .refused directory (.denied directory) := by
  unfold stopsIn
  cases tree.readable place with
  | false => simp
  | true =>
    simp only [if_true, List.mem_filterMap, List.mem_filter, List.mem_mergeSort, Bool.and_eq_true,
      Bool.not_eq_true', and_assoc, true_and, Bool.true_eq_false, false_and, or_false]

theorem mem_walk_iff : .file path ∈ shelf.walk tree ↔
    ∃ directory ∈ shelf.directories, ∃ name, path = directory ++ [name] ∧
      tree.refusal? directory = none ∧
      (∃ place, tree.directory? directory = some place ∧ tree.readable place = true ∧
        name ∈ tree.namesIn place) ∧
      Path.isHidden name = false ∧ shelf.hasExtension name = true ∧
      tree.offers path = .ok true := by
  simp only [walk, List.mem_flatMap]
  refine exists_congr fun directory => and_congr_right fun _ => ?_
  rcases tree.refusal? directory with _ | fault
  · cases opened : tree.directory? directory with
    | none => simp
    | some place =>
      simp only [mem_stopsIn_iff, stop?_eq_some_iff, Stop.file.injEq, reduceCtorEq, false_and,
        exists_false, or_false, and_false, Option.some.injEq, exists_eq_left', true_and]
      constructor
      · rintro ⟨admits, name, here, visible, suffix, rfl, offered⟩
        exact ⟨name, rfl, ⟨admits, here⟩, visible, suffix, offered⟩
      · rintro ⟨name, rfl, ⟨admits, here⟩, visible, suffix, offered⟩
        exact ⟨admits, name, here, visible, suffix, rfl, offered⟩
  · simp

theorem offers_of_mem_walk (met : .file path ∈ shelf.walk tree) : tree.offers path = .ok true := by
  obtain ⟨_, _, _, _, _, _, _, _, offered⟩ := mem_walk_iff.mp met
  exact offered

theorem mem_of_searchSections (found : (shelf.searchSections tree tag stops).result = .ok path) :
    .file path ∈ stops := by
  fun_induction searchSections shelf tree tag stops with
  | case1 => simp at found
  | case2 directory rest search ih => exact List.mem_cons_of_mem _ (ih found)
  | case3 => simp at found
  | case4 => simp at found
  | case5 path' rest text held =>
    simp only [Except.ok.injEq] at found
    simp [found]
  | case6 path' rest held ih => exact List.mem_cons_of_mem _ (ih found)

theorem exists_of_searchSections
    (found : (shelf.searchSections tree tag stops).result = .ok path) :
    ∃ text, shelf.sectionIn tree tag path = .ok (some text) := by
  fun_induction searchSections shelf tree tag stops with
  | case1 => simp at found
  | case2 directory rest search ih => exact ih found
  | case3 => simp at found
  | case4 => simp at found
  | case5 path' rest text held =>
    cases found
    exact ⟨text, held⟩
  | case6 path' rest held ih => exact ih found

inductive SearchFails (shelf : FileShelf) (tree : FileTree) (tag : String) (stops : List Stop) :
    Error → Prop where
  | absent (lacks : ∀ path, .file path ∈ stops → shelf.sectionIn tree tag path = .ok none)
    (admits : ∀ path fault, .refused path fault ∉ stops) :
    SearchFails shelf tree tag stops (.unknownTag tag)
  | broken {path : Path} {e : Error} (met : .file path ∈ stops)
    (held : shelf.sectionIn tree tag path = .error e) : SearchFails shelf tree tag stops e
  | refused {path : Path} {fault : SystemFault} (met : .refused path fault ∈ stops) :
    SearchFails shelf tree tag stops (.system fault)

theorem SearchFails.cons {stop : Stop} {e : Error} (fails : shelf.SearchFails tree tag stops e)
    (lacks : ∀ path, stop = .file path → shelf.sectionIn tree tag path = .ok none)
    (passes : ∀ path fault, stop ≠ .refused path fault) :
    shelf.SearchFails tree tag (stop :: stops) e := by
  cases fails with
  | absent later admits =>
    refine .absent (fun path member => ?_) fun path fault member => ?_
    · rcases List.mem_cons.mp member with here | member
      · exact lacks path here.symm
      · exact later path member
    · rcases List.mem_cons.mp member with here | member
      · exact passes path fault here.symm
      · exact admits path fault member
  | broken met held => exact .broken (List.mem_cons_of_mem _ met) held
  | refused met => exact .refused (List.mem_cons_of_mem _ met)

-- A search goes on only past files without a header of the tag.
theorem searchSections_failed {e : Error}
    (failed : (shelf.searchSections tree tag stops).result = .error e) :
    shelf.SearchFails tree tag stops e := by
  fun_induction searchSections shelf tree tag stops with
  | case1 =>
    cases failed
    exact .absent (by simp) (by simp)
  | case2 directory rest search ih => exact (ih failed).cons (by simp) (by simp)
  | case3 path fault rest =>
    cases failed
    exact .refused (List.mem_cons_self ..)
  | case4 path rest e' held =>
    cases failed
    exact .broken (List.mem_cons_self ..) held
  | case5 path rest text held => cases failed
  | case6 path rest held ih =>
    refine (ih failed).cons (fun path' same => ?_) (by simp)
    cases same
    exact held

theorem offers_of_resolve (found : (shelf.resolve tree tag).result = .ok path) :
    tree.offers path = .ok true := by
  unfold resolve at found
  split at found
  · simp only [searchNames] at found
    split at found
    · simp at found
    · exact (offers_of_firstOffered found).2
  · exact offers_of_mem_walk (mem_of_searchSections found)

end FileShelf

namespace Library

theorem exists_fingerprint {library : Library} {tag : String} {source : Source}
    (found : (library.shelf.resolve library.tree tag).result = .ok source) :
    ∃ stamp, library.fingerprint source = some stamp := by
  unfold fingerprint
  cases kind : library.shelf with
  | memory shelf =>
    rw [kind] at found
    simp only [Shelf.resolve] at found
    split at found
    next held =>
      obtain ⟨template, held⟩ := Option.isSome_iff_exists.mp held
      cases found
      simp [Shelf.fingerprint, held]
    next => simp at found
  | files shelf =>
    rw [kind] at found
    simp only [Shelf.resolve] at found
    cases result : (shelf.resolve library.tree tag).result with
    | error e => simp [result, Functor.map, Except.map] at found
    | ok path =>
      rw [result] at found
      cases found
      obtain ⟨data, stamp, there, -⟩ :=
        FileTree.exists_file_of_offers (FileShelf.offers_of_resolve result)
      simp [Shelf.fingerprint, there]

theorem isCurrent_of_resolve {library : Library} {tag : String} {source : Source}
    (found : (library.shelf.resolve library.tree tag).result = .ok source) (chain : Option Chain) :
    library.isCurrent ⟨source, library.fingerprint source, chain⟩ = true := by
  obtain ⟨stamp, stamped⟩ := exists_fingerprint found
  simp [isCurrent, stamped]

theorem chain?_stored {library : Library} {tag : String} {source : Source}
    (found : (library.shelf.resolve library.tree tag).result = .ok source) (cache : Cache)
    (chain : Chain) (other : String) :
    library.chain? (cache.put tag ⟨source, library.fingerprint source, some chain⟩) other =
      if other = tag then some chain else library.chain? cache other := by
  rw [chain?_put, isCurrent_of_resolve found, if_pos rfl]

end Library

namespace Catalog

variable {library : Library} {tag : String} {catalog : Catalog}

theorem ends_conclude {α : Type} (search : Search α) {good : α → Catalog → Prop}
    {bad : Error → Catalog → Prop}
    (answers : ∀ a journal, search.result = .ok a → good a ⟨catalog.cache, journal⟩)
    (fails : ∀ e journal, search.result = .error e → bad e ⟨catalog.cache, journal⟩) :
    Action.Ends (conclude search) catalog good bad := by
  obtain ⟨journal, same⟩ := forM_noteSkipped search.skipped catalog
  simp only [conclude, Action.ends_bind, Action.ends_ofExcept]
  simp only [Action.Ends, same]
  cases result : search.result with
  | ok a => exact answers a journal result
  | error e => exact fails e journal result

theorem ends_find {good : String → Catalog → Prop} {bad : Error → Catalog → Prop}
    (found : ∀ body source journal, library.template tag = .ok body →
      (library.shelf.resolve library.tree tag).result = .ok source →
      good body ⟨catalog.cache.put tag ⟨source, library.fingerprint source, none⟩, journal⟩)
    (missing : ∀ e journal, library.template tag = .error e → bad e ⟨catalog.cache, journal⟩) :
    Action.Ends (find library tag) catalog good bad := by
  simp only [find, note, resolve, setEntry, Action.ends_bind, Action.ends_modify,
    Action.ends_ofExcept, Action.ends_pure]
  apply ends_conclude
  · intro source journal resolved
    cases read : library.shelf.read library.tree tag source with
    | ok body =>
      exact found body source _ (by simp only [Library.template, resolved, read]) resolved
    | error e => exact missing e _ (by simp only [Library.template, resolved, read])
  · intro e journal unresolved
    exact missing e _ (by simp only [Library.template, unresolved])

theorem ends_lookup {good : Option Chain → Catalog → Prop} {bad : Error → Catalog → Prop}
    (known : ∀ journal, good (library.chain? catalog.cache tag) ⟨catalog.cache, journal⟩) :
    Action.Ends (lookup library tag) catalog good bad := by
  simp only [lookup, note, Action.ends_bind, Action.ends_modify, Action.ends_get,
    Action.ends_pure]
  exact known _

theorem ends_store {entry : CacheEntry} {chain : Chain} {good : Unit → Catalog → Prop}
    {bad : Error → Catalog → Prop} (held : catalog.cache.get? tag = some entry)
    (stored : ∀ journal,
      good () ⟨catalog.cache.put tag { entry with chain := some chain }, journal⟩) :
    Action.Ends (store library tag chain) catalog good bad := by
  simp only [store, note, setEntry, Action.ends_bind, Action.ends_modify, Action.ends_get, held]
  exact stored _

end Catalog

end QueryBook
