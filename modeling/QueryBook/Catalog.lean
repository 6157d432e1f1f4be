import QueryBook.Chain
import QueryBook.Shelf.Search

set_option autoImplicit false

namespace QueryBook

structure Library where
  shelf : Shelf
  tree : FileTree

structure CacheEntry where
  source : Source
  fingerprint : Option Int
  chain : Option Chain
  deriving DecidableEq, Repr

def CacheEntry.listing (entry : CacheEntry) : String :=
  let stamp : Value :=
    match entry.fingerprint with
    | some stamp => .int stamp
    | none => .null
  "CacheEntry(source=" ++ entry.source.listing ++ ", fingerprint=" ++ stamp.listing ++
    ", cached=" ++
    (Value.bool entry.chain.isSome).listing ++ ")"

abbrev Cache := Keyed CacheEntry

namespace Library

def add (library : Library) (tag sql : String) : Library :=
  { library with shelf := library.shelf.add tag sql }

def remove (library : Library) (tag : String) : Library :=
  { library with shelf := library.shelf.remove tag }

def fingerprint (library : Library) (source : Source) : Option Int :=
  library.shelf.fingerprint library.tree source

def isCurrent (library : Library) (entry : CacheEntry) : Bool :=
  match library.fingerprint entry.source with
  | some stamp => entry.fingerprint == some stamp
  | none => false

def chain? (library : Library) (cache : Cache) (tag : String) : Option Chain :=
  match cache.get? tag with
  | some entry => if library.isCurrent entry then entry.chain else none
  | none => none

def isValid (library : Library) (cache : Cache) (tag : String) : Bool :=
  match cache.get? tag with
  | some entry => entry.chain.isSome && library.isCurrent entry
  | none => false

theorem isValid_eq (library : Library) (cache : Cache) (tag : String) :
    library.isValid cache tag = (library.chain? cache tag).isSome := by
  unfold isValid chain?
  cases cache.get? tag with
  | none => rfl
  | some entry => cases current : library.isCurrent entry <;> simp [current]

end Library

structure Catalog where
  cache : Cache
  journal : Journal

namespace Catalog

def note (record : Record) : Action Catalog Unit :=
  modify fun catalog => { catalog with journal := catalog.journal ++ [record] }

def noteSkipped (directory : Path) : Action Catalog Unit :=
  note (.debug "archive.files" ("Skipping missing library directory " ++ directory.text))

def conclude {α : Type} (search : Search α) : Action Catalog α := do
  search.skipped.forM noteSkipped
  Action.ofExcept search.result

theorem forM_noteSkipped (skipped : List Path) (catalog : Catalog) :
    ∃ journal, skipped.forM noteSkipped catalog = .ok () ⟨catalog.cache, journal⟩ := by
  induction skipped generalizing catalog with
  | nil => exact ⟨catalog.journal, rfl⟩
  | cons directory rest ih => exact ih _

theorem result_of_conclude {α : Type} {search : Search α} {a : α} {catalog after : Catalog}
    (concluded : conclude search catalog = .ok a after) : search.result = .ok a := by
  obtain ⟨noted, same⟩ := forM_noteSkipped search.skipped catalog
  simp only [conclude, bind, EStateM.bind, same] at concluded
  cases result : search.result with
  | ok b =>
    simp only [result, Action.ofExcept, pure, EStateM.pure, EStateM.Result.ok.injEq] at concluded
    rw [concluded.1]
  | error e =>
    rw [result] at concluded
    cases concluded

def resolve (library : Library) (tag : String) : Action Catalog Source :=
  conclude (library.shelf.resolve library.tree tag)

def setEntry (tag : String) (entry : CacheEntry) : Action Catalog Unit :=
  modify fun catalog => { catalog with cache := catalog.cache.put tag entry }

def find (library : Library) (tag : String) : Action Catalog String := do
  note (.debug "archive" ("FIND " ++ tag))
  let source ← resolve library tag
  let text ← Action.ofExcept (library.shelf.read library.tree tag source)
  setEntry tag ⟨source, library.fingerprint source, none⟩
  note (.debug "archive" ("FOUND " ++ tag ++ " in " ++ source.text))
  pure text

theorem mem_findable_of_find {library : Library} {tag text : String} {catalog after : Catalog}
    (found : find library tag catalog = .ok text after) :
    tag ∈ library.shelf.findable library.tree := by
  simp only [find, bind, EStateM.bind] at found
  split at found
  next a noted _ =>
    split at found
    next source catalog' resolved => exact Shelf.mem_findable (result_of_conclude resolved)
    next => simp at found
  next => simp at found

def lookup (library : Library) (tag : String) : Action Catalog (Option Chain) := do
  note (.debug "archive" ("LOOKUP " ++ tag))
  pure (library.chain? (← get).cache tag)

def store (library : Library) (tag : String) (chain : Chain) : Action Catalog Unit := do
  note (.debug "archive" ("CACHE " ++ tag))
  match (← get).cache.get? tag with
  | some entry => setEntry tag { entry with chain := some chain }
  | none =>
    let source ← resolve library tag
    setEntry tag ⟨source, library.fingerprint source, some chain⟩

def toc (library : Library) : Action Catalog (List String) :=
  conclude (library.shelf.toc library.tree)

def invalidate (tag : String) : Action Catalog Unit :=
  modify fun catalog => { catalog with cache := catalog.cache.erase tag }

def clear : Action Catalog Unit :=
  modify fun catalog => { catalog with cache := [] }

end Catalog

end QueryBook
