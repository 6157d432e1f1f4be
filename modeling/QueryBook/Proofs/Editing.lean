import QueryBook.Proofs.Accepting
import QueryBook.Proofs.Lasting

set_option autoImplicit false

namespace QueryBook

open QueryBook.Action Compiler

def MemoryShelf.Dated (shelf : MemoryShelf) : Prop :=
  ∀ tag revision sql, shelf.templates.get? tag = some (revision, sql) → revision ≤ shelf.revision

def Cache.Dated (cache : Cache) (revision : Nat) : Prop :=
  ∀ tag entry, cache.get? tag = some entry → entry.source = .tag tag ∧
    ∀ stamp, entry.fingerprint = some stamp → stamp ≤ revision

namespace MemoryShelf

variable {shelf : MemoryShelf} {tag sql : String}

theorem Dated.add (dated : shelf.Dated) (tag sql : String) : (shelf.add tag sql).Dated := by
  intro other revision text found
  simp only [MemoryShelf.add, Keyed.get?_put] at found ⊢
  split at found
  · cases found
    exact Nat.le_refl _
  · exact Nat.le_succ_of_le (dated other revision text found)

theorem Dated.remove (dated : shelf.Dated) (tag : String) : (shelf.remove tag).Dated := by
  intro other revision text found
  by_cases same : other = tag
  · subst same
    simp [MemoryShelf.remove] at found
  · simp only [MemoryShelf.remove, Keyed.get?_erase_of_ne _ same] at found
    exact dated other revision text found

theorem dated_ofList (templates : List (String × String)) : (ofList templates).Dated := by
  unfold ofList
  apply List.foldlRecOn (motive := Dated)
  · intro tag revision sql found
    cases found
  · intro shelf dated entry _
    exact dated.add entry.1 entry.2

end MemoryShelf

namespace Library

variable {library : Library} {shelf : MemoryShelf} {tag : String}

theorem shelf_add (memory : library.shelf = .memory shelf) (tag sql : String) :
    (library.add tag sql).shelf = .memory (shelf.add tag sql) := by
  simp only [Library.add, memory, Shelf.add]

theorem shelf_remove (memory : library.shelf = .memory shelf) (tag : String) :
    (library.remove tag).shelf = .memory (shelf.remove tag) := by
  simp only [Library.remove, memory, Shelf.remove]

theorem template_of_memory (memory : library.shelf = .memory shelf) :
    library.template tag =
      match shelf.templates.get? tag with
      | some (_, sql) => .ok sql
      | none => .error (.unknownTag tag) := by
  simp only [template, memory, Shelf.resolve, Shelf.read]
  cases held : shelf.templates.get? tag <;> simp [held]

theorem fingerprint_of_memory (memory : library.shelf = .memory shelf) :
    library.fingerprint (.tag tag) =
      (shelf.templates.get? tag).map fun (revision, _) => (revision : Int) := by
  simp only [fingerprint, memory, Shelf.fingerprint]

theorem source_of_resolve {source : Source} (memory : library.shelf = .memory shelf)
    (resolved : (library.shelf.resolve library.tree tag).result = .ok source) :
    source = .tag tag := by
  rw [memory] at resolved
  simp only [Shelf.resolve] at resolved
  split at resolved <;> cases resolved
  rfl

theorem ChainOf.of_template {library later : Library} {known : String → Statement → Prop}
    {chain : Chain} (chainOf : library.ChainOf known tag chain)
    (same : later.template tag = library.template tag) : later.ChainOf known tag chain :=
  ⟨chainOf.named, same ▸ chainOf.blocks⟩

theorem remembered?_of_get? {later : Library} {shelf' : MemoryShelf} {cache : Cache}
    {revision : Nat} (memory : library.shelf = .memory shelf)
    (memory' : later.shelf = .memory shelf') (dated : cache.Dated revision)
    (same : shelf'.templates.get? tag = shelf.templates.get? tag) :
    later.remembered? cache tag = library.remembered? cache tag := by
  unfold remembered?
  cases held : cache.get? tag with
  | none => rfl
  | some entry =>
    have source := (dated tag entry held).1
    simp only [isCurrent, source, fingerprint_of_memory memory, fingerprint_of_memory memory', same]

theorem chain?_of_get? {later : Library} {shelf' : MemoryShelf} {cache : Cache} {revision : Nat}
    (memory : library.shelf = .memory shelf) (memory' : later.shelf = .memory shelf')
    (dated : cache.Dated revision)
    (same : shelf'.templates.get? tag = shelf.templates.get? tag) :
    later.chain? cache tag = library.chain? cache tag := by
  rw [chain?_eq, chain?_eq, remembered?_of_get? memory memory' dated same]

theorem template_of_get? {later : Library} {shelf' : MemoryShelf}
    (memory : library.shelf = .memory shelf) (memory' : later.shelf = .memory shelf')
    (same : shelf'.templates.get? tag = shelf.templates.get? tag) :
    later.template tag = library.template tag := by
  rw [template_of_memory memory, template_of_memory memory', same]

-- The stamp of the new template is newer than that of any entry.
theorem remembered?_add_self {cache : Cache} (memory : library.shelf = .memory shelf)
    (dated : cache.Dated shelf.revision) (sql : String) :
    (library.add tag sql).remembered? cache tag = none := by
  have memory' := shelf_add memory tag sql
  unfold remembered?
  cases held : cache.get? tag with
  | none => rfl
  | some entry =>
    obtain ⟨source, before⟩ := dated tag entry held
    have stale : (library.add tag sql).isCurrent entry = false := by
      simp only [isCurrent, source, fingerprint_of_memory memory', MemoryShelf.add,
        Keyed.get?_put_self, Option.map_some, beq_eq_false_iff_ne]
      intro stamped
      have := before _ stamped
      omega
    simp [stale]

theorem chain?_add_self {cache : Cache} (memory : library.shelf = .memory shelf)
    (dated : cache.Dated shelf.revision) (sql : String) :
    (library.add tag sql).chain? cache tag = none := by
  rw [chain?_eq, remembered?_add_self memory dated]
  rfl

end Library

theorem Cache.Dated.put {library : Library} {shelf : MemoryShelf} {cache : Cache} {tag : String}
    {source : Source} (memory : library.shelf = .memory shelf) (shelved : shelf.Dated)
    (dated : cache.Dated shelf.revision)
    (resolved : (library.shelf.resolve library.tree tag).result = .ok source)
    (chain : Option Chain) :
    Cache.Dated (cache.put tag ⟨source, library.fingerprint source, chain⟩) shelf.revision := by
  intro other entry held
  rw [Keyed.get?_put] at held
  split at held
  next same =>
    cases held
    have source := Library.source_of_resolve memory resolved
    refine ⟨by rw [source, same], fun stamp stamped => ?_⟩
    rw [source, Library.fingerprint_of_memory memory, Option.map_eq_some_iff] at stamped
    obtain ⟨⟨revision, sql⟩, found, rfl⟩ := stamped
    exact Int.ofNat_le.mpr (shelved tag revision sql found)
  next => exact dated other entry held

theorem Cache.Dated.erase {cache : Cache} {revision : Nat} (dated : cache.Dated revision)
    (tag : String) : Cache.Dated (Keyed.erase cache tag) revision := by
  intro other entry held
  by_cases same : other = tag
  · simp [same] at held
  · rw [Keyed.get?_erase_of_ne _ same] at held
    exact dated other entry held

theorem Cache.Dated.mono {cache : Cache} {revision later : Nat} (dated : cache.Dated revision)
    (before : revision ≤ later) : cache.Dated later := by
  intro tag entry held
  obtain ⟨source, stamps⟩ := dated tag entry held
  exact ⟨source, fun stamp stamped =>
    Int.le_trans (stamps stamp stamped) (Int.ofNat_le.mpr before)⟩

theorem Cache.dated_nil (revision : Nat) : Cache.Dated [] revision :=
  fun _ _ held => nomatch held

namespace Compiler

variable {σ : Type} {c : Compiler σ} {steady : c.connection.ByText} {desk t : Desk σ}

def Shelved (c : Compiler σ) (desk : Desk σ) : Prop :=
  ∃ shelf, c.library.shelf = .memory shelf ∧ shelf.Dated ∧ desk.cache.Dated shelf.revision

theorem Shelved.put {tag : String} {source : Source} (shelved : c.Shelved desk)
    (resolved : (c.library.shelf.resolve c.library.tree tag).result = .ok source)
    (chain : Option Chain)
    (same : t.cache = desk.cache.put tag ⟨source, c.library.fingerprint source, chain⟩) :
    c.Shelved t := by
  obtain ⟨shelf, memory, shelved, dated⟩ := shelved
  exact ⟨shelf, memory, shelved, same ▸ dated.put memory shelved resolved chain⟩

theorem Shelved.fresh (shelved : c.Shelved desk) (fresh : t.cache = []) : c.Shelved t := by
  obtain ⟨shelf, memory, shelved, -⟩ := shelved
  exact ⟨shelf, memory, shelved, fresh ▸ Cache.dated_nil _⟩

theorem lasting_shelved (m : c.Making) : Lasting m c.Shelved where
  step := by
    intro desk t step shelved
    cases step with
    | asked => exact shelved
    | found tag source resolved => exact shelved.put resolved none rfl
    | stored tag source chain resolved => exact shelved.put resolved (some chain) rfl
  reset := fun _ resolved shelved => shelved.put resolved none rfl
  erase := by
    intro desk tag shelved
    obtain ⟨shelf, memory, shelved, dated⟩ := shelved
    exact ⟨shelf, memory, shelved, dated.erase tag⟩
  fresh := fun empty shelved => shelved.fresh empty

structure Stocked (c : Compiler σ) (steady : c.connection.ByText) (desk : Desk σ) : Prop where
  shelf : ∃ shelf, c.library.shelf = .memory shelf ∧ shelf.Dated ∧ desk.cache.Dated shelf.revision
  kept : Kept (c.working steady) desk

theorem Stocked.empty (memory : ∃ shelf, c.library.shelf = .memory shelf ∧ shelf.Dated)
    (fresh : desk.cache = []) : c.Stocked steady desk := by
  obtain ⟨shelf, memory, shelved⟩ := memory
  exact ⟨⟨shelf, memory, shelved, fresh ▸ Cache.dated_nil _⟩, kept_of_fresh fresh⟩

end Compiler

namespace Book

variable {σ : Type} {setup : Setup σ} {book t : Book σ}

-- Only what the library has under one tag is different, and the tag has no chain any more.
structure Edited (tag : String) (book t : Book σ) : Prop where
  gone : t.library.chain? t.cache tag = none
  chains : ∀ other, other ≠ tag →
    t.library.chain? t.cache other = book.library.chain? book.cache other
  template : ∀ other, other ≠ tag → t.library.template other = book.library.template other
  conn : t.conn = book.conn

theorem Edited.chainOf {known : String → Statement → Prop} {tag other : String} {chain : Chain}
    (edited : Edited tag book t)
    (kept : ∀ tag chain, book.library.chain? book.cache tag = some chain →
      book.library.ChainOf known tag chain)
    (counts : t.library.chain? t.cache other = some chain) :
    t.library.ChainOf known other chain := by
  by_cases same : other = tag
  · subst same
    simp [edited.gone] at counts
  · rw [edited.chains other same] at counts
    exact (kept other chain counts).of_template (edited.template other same)

abbrev Shelved (book : Book σ) : Prop :=
  ∃ shelf, book.library.shelf = .memory shelf ∧ shelf.Dated ∧ book.cache.Dated shelf.revision

theorem Shelved.add (shelved : book.Shelved) (tag sql : String) :
    Shelved { book with library := book.library.add tag sql } ∧
      Edited tag book { book with library := book.library.add tag sql } := by
  obtain ⟨shelf, memory, shelved, dated⟩ := shelved
  have memory' := Library.shelf_add memory tag sql
  constructor
  · exact ⟨_, memory', shelved.add tag sql, dated.mono (Nat.le_succ shelf.revision)⟩
  · have same (other : String) (different : other ≠ tag) :
        (shelf.add tag sql).templates.get? other = shelf.templates.get? other :=
      Keyed.get?_put_of_ne _ _ different
    exact {
      gone := Library.chain?_add_self memory dated sql
      chains := fun other different =>
        Library.chain?_of_get? memory memory' dated (same other different)
      template := fun other different =>
        Library.template_of_get? memory memory' (same other different)
      conn := rfl }

theorem Shelved.remove (shelved : book.Shelved) (tag : String) :
    Shelved { book with cache := book.cache.erase tag, library := book.library.remove tag } ∧
      Edited tag book
        { book with cache := book.cache.erase tag, library := book.library.remove tag } := by
  obtain ⟨shelf, memory, shelved, dated⟩ := shelved
  have memory' := Library.shelf_remove memory tag
  constructor
  · exact ⟨_, memory', shelved.remove tag, dated.erase tag⟩
  · have same (other : String) (different : other ≠ tag) :
        (shelf.remove tag).templates.get? other = shelf.templates.get? other :=
      Keyed.get?_erase_of_ne _ different
    exact {
      gone := by simp [Library.chain?_erase]
      chains := by
        intro other different
        change (book.library.remove tag).chain? (book.cache.erase tag) other = _
        rw [Library.chain?_erase, if_neg different]
        exact Library.chain?_of_get? memory memory' dated (same other different)
      template := fun other different =>
        Library.template_of_get? memory memory' (same other different)
      conn := rfl }

section Upheld

variable {making : ∀ library, (setup.compiler library).Making}

abbrev Upheld (making : ∀ library, (setup.compiler library).Making) (book : Book σ) : Prop :=
  (setup.compiler book.library).Shelved book.toDesk ∧ Kept (making book.library) book.toDesk

variable (moved : ∀ library, setup.connection.MovesBy (making library).Moves)
  (known : ∀ library later, (making library).Known = (making later).Known)

include known in
theorem Upheld.edit {tag : String} (upheld : Upheld making book)
    (edit : t.Shelved ∧ Edited tag book t) : Upheld making t := by
  refine ⟨edit.1, fun other chain counts => ?_⟩
  rw [edit.2.conn, known t.library book.library]
  exact edit.2.chainOf upheld.2 counts

include moved known in
theorem ends_use_upheld (upheld : Upheld making book) (u : Use) :
    EndsIn (use setup u) book
      (fun t => Upheld making t ∧ (u ≠ .disconnect → t.connected = book.connected)) := by
  have lasting (unchanged : u.edits = false) :
      EndsIn (use setup u) book
        (fun t => Upheld making t ∧ (u ≠ .disconnect → t.connected = book.connected)) := by
    have both := (lasting_shelved (making book.library)).and (lasting_kept (making book.library))
    have used {t : Book σ} (lasts : Lasts (fun desk => (setup.compiler book.library).Shelved desk ∧
        Kept (making book.library) desk) u book t) :
        Upheld making t ∧ (u ≠ .disconnect → t.connected = book.connected) := by
      refine ⟨?_, lasts.connected⟩
      unfold Upheld
      rw [lasts.library]
      exact lasts.holds
    exact (ends_use_lasting (moved book.library) both unchanged rfl upheld).mono fun _ => used
  cases u with
  | add tag sql => exact ⟨upheld.edit known (Shelved.add upheld.1 tag sql), fun _ => rfl⟩
  | remove tag =>
    simp only [use, remove, ends_bind, ends_onCatalog, Catalog.invalidate, ends_modify]
    exact ⟨upheld.edit known (Shelved.remove upheld.1 tag), fun _ => trivial⟩
  | _ => exact lasting rfl

include moved known in
theorem upheld_after (upheld : Upheld making book) (uses : List Use) :
    Upheld making (after setup book uses) := by
  have step (u : Use) (_ : True) (book : Book σ) (upheld : Upheld making book) :
      EndsIn (use setup u) book (Upheld making) :=
    (ends_use_upheld moved known upheld u).mono fun _ used => used.1
  exact after_induction step (fun _ _ => trivial) upheld

end Upheld

abbrev Stocked (steady : setup.connection.ByText) (book : Book σ) : Prop :=
  (setup.compiler book.library).Stocked steady book.toDesk

variable {steady : setup.connection.ByText}

structure Used (steady : setup.connection.ByText) (u : Use) (book t : Book σ) : Prop where
  stocked : Stocked steady t
  connected : u ≠ .disconnect → t.connected = book.connected

theorem ends_use_stocked (stocked : Stocked steady book) (u : Use) :
    EndsIn (use setup u) book (Used steady u book) := by
  have upheld : Upheld (fun library => (setup.compiler library).working steady) book :=
    ⟨stocked.shelf, stocked.kept⟩
  exact (ends_use_upheld (fun _ => steady.keeps) (fun _ _ => rfl) upheld u).mono
    fun _ used => ⟨⟨used.1.1, used.1.2⟩, used.2⟩

end Book

end QueryBook
