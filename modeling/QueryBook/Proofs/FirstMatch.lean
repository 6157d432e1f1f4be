import QueryBook.Proofs.Failing
import QueryBook.Proofs.FileEdits
import QueryBook.Proofs.Includes
import QueryBook.Proofs.Lasting

set_option autoImplicit false

namespace QueryBook

open QueryBook.Action Compiler

structure Chain.MadeOf (known : String → Statement → Prop) (tag text : String) (chain : Chain) :
    Prop where
  named : chain.tag = tag
  blocks : List.Forall₂ (EntryOf known) (Template.statements text) chain.entries

-- The entry is from a file that had this stamp, and as long as it has, the chain is made of what
-- the file has for the tag.
structure CacheEntry.Filed (shelf : FileShelf) (known : String → Statement → Prop)
    (had : Path → Int → Prop) (tree : FileTree) (tag : String) (chain : Chain) (path place : Path)
    (stamp : Int) (entry : CacheEntry) : Prop where
  source : entry.source = .file path
  stamped : entry.fingerprint = some stamp
  located : tree.locate path = some place
  old : had place stamp
  holds : ∀ data, tree.file? path = some (data, stamp) → path ∈ shelf.places tree tag ∧
    ∃ text, shelf.read tree tag path = .ok text ∧ chain.MadeOf known tag text

namespace CacheEntry

variable {shelf : FileShelf} {known : String → Statement → Prop} {had later : Path → Int → Prop}
  {tree : FileTree} {tag : String} {chain : Chain} {path place : Path} {stamp : Int}
  {entry : CacheEntry}

theorem Filed.imp (filed : Filed shelf known had tree tag chain path place stamp entry)
    (wider : ∀ place stamp, had place stamp → later place stamp) :
    Filed shelf known later tree tag chain path place stamp entry :=
  { filed with old := wider place stamp filed.old }

theorem Filed.of_follows {after : FileTree}
    (filed : Filed shelf known had tree tag chain path place stamp entry)
    (follows : tree.Follows had after) :
    Filed shelf known had after tag chain path place stamp entry where
  source := filed.source
  stamped := filed.stamped
  located := FileTree.locate_of_follows follows filed.located
  old := filed.old
  holds := by
    intro data there
    obtain ⟨admits, place', located', held⟩ := FileTree.file?_eq_some_iff.mp there
    obtain rfl : place' = place :=
      Option.some.inj (located'.symm.trans (FileTree.locate_of_follows follows filed.located))
    -- The stamp is an old one, so the file is still the one that was read.
    have before := follows.files place' data stamp filed.old held
    have there' : tree.file? path = some (data, stamp) :=
      FileTree.file?_eq_some_iff.mpr ⟨admits.of_follows follows, place', filed.located, before⟩
    obtain ⟨member, text, read, made⟩ := filed.holds data there'
    obtain ⟨_, bytes⟩ := FileShelf.exists_bytes_of_read read
    have readable := FileTree.isReadable_of_bytes bytes
    have readable' := FileTree.isReadable_of_follows follows filed.located readable
    have same : after.bytes path = tree.bytes path := by
      rw [FileTree.bytes_of_file? there readable', FileTree.bytes_of_file? there' readable]
    refine ⟨FileShelf.mem_places_of_follows follows member read
      (FileTree.offers_of_file? there readable'), text, ?_, made⟩
    rw [FileShelf.read_of_bytes same, read]

theorem exists_filed {library : Library} {source : Source} (files : library.shelf = .files shelf)
    (resolved : (library.shelf.resolve library.tree tag).result = .ok source)
    (made : library.ChainOf known tag chain) (held : Option Chain) :
    ∃ path place stamp, Filed shelf known (library.tree.Seen had) library.tree tag chain path place
      stamp ⟨source, library.fingerprint source, held⟩ := by
  obtain ⟨path, rfl, found⟩ := Library.exists_path_of_resolve files resolved
  obtain ⟨data, stamp, there, -⟩ :=
    FileTree.exists_file_of_offers (FileShelf.offers_of_resolve found)
  obtain ⟨-, place, located, node⟩ := FileTree.file?_eq_some_iff.mp there
  obtain ⟨text, read, blocks⟩ := made.blocks
  rw [Library.template_of_files files found] at read
  refine ⟨path, place, stamp, rfl, ?_, located, .inr ⟨data, node⟩, fun _ _ =>
    ⟨FileShelf.mem_places_of_resolve found, text, read, made.named, blocks⟩⟩
  simp only [Library.fingerprint, files, Shelf.fingerprint, there, Option.map_some]

end CacheEntry

namespace Compiler

variable {σ : Type} {c : Compiler σ} {shelf : FileShelf} {had : Path → Int → Prop}
  {desk t : Desk σ}

def Filed (c : Compiler σ) (shelf : FileShelf) (had : Path → Int → Prop) (desk : Desk σ) : Prop :=
  ∀ tag entry chain, desk.cache.get? tag = some entry → entry.chain = some chain →
    ∃ path place stamp,
      entry.Filed shelf c.Creates had c.library.tree tag chain path place stamp

theorem Filed.put {tag : String} {new : CacheEntry} (filed : c.Filed shelf had desk)
    (same : t.cache = desk.cache.put tag new)
    (good : ∀ chain, new.chain = some chain → ∃ path place stamp,
      new.Filed shelf c.Creates had c.library.tree tag chain path place stamp) :
    c.Filed shelf had t := by
  intro other entry chain held
  rw [same] at held
  exact Cache.Every.put filed good other entry chain held

theorem lasting_filed (had : Path → Int → Prop) (files : c.library.shelf = .files shelf) :
    Lasting c.creating (c.Filed shelf (c.library.tree.Seen had)) where
  step := by
    intro desk t step filed
    cases step with
    | asked => exact filed
    | found tag source => exact filed.put rfl fun _ made => nomatch made
    | stored tag source chain resolved unmade made =>
      refine filed.put rfl fun chain' same => ?_
      cases same
      exact CacheEntry.exists_filed files resolved made _
  reset := fun _ _ filed => filed.put rfl fun _ made => nomatch made
  erase := fun tag filed => Cache.Every.erase filed tag
  fresh := by
    intro desk t empty _ tag entry chain held
    simp [empty] at held

end Compiler

inductive Happening where
  | use (u : Use)
  | edit (e : FileEdit)

namespace Book

variable {σ : Type} {setup : Setup σ} {book t : Book σ} {shelf : FileShelf}
  {had : Path → Int → Prop}

def editFile (book : Book σ) (e : FileEdit) : Book σ :=
  { book with library := { book.library with tree := book.library.tree.edit e } }

def happen (setup : Setup σ) (book : Book σ) : Happening → Book σ
  | .use u => ((use setup u).outcome book).2
  | .edit e => book.editFile e

def afterAll (setup : Setup σ) (book : Book σ) (happenings : List Happening) : Book σ :=
  happenings.foldl (happen setup) book

-- A use may be anything but an edit of a library in memory, and no file gets a stamp that it has
-- had before; `had` tells of the time before the book.
def Fits (setup : Setup σ) : (Path → Int → Prop) → Book σ → List Happening → Prop
  | _, _, [] => True
  | had, book, h :: rest =>
    (match h with
      | .use u => u.edits = false
      | .edit e => e.Fits (book.library.tree.Seen had) book.library.tree) ∧
    Fits setup (book.library.tree.Seen had) (book.happen setup h) rest

structure Filed (setup : Setup σ) (shelf : FileShelf) (had : Path → Int → Prop) (book : Book σ) :
    Prop where
  files : book.library.shelf = .files shelf
  entries : (setup.compiler book.library).Filed shelf (book.library.tree.Seen had) book.toDesk

theorem Filed.use (filed : Filed setup shelf had book) {u : Use} (unchanged : u.edits = false) :
    Filed setup shelf (book.library.tree.Seen had) (book.happen setup (.use u)) := by
  have lasting : Lasting (setup.compiler book.library).creating
      ((setup.compiler book.library).Filed shelf (book.library.tree.Seen had)) :=
    lasting_filed had filed.files
  have lasts : Lasts _ u book (book.happen setup (.use u)) :=
    (ends_use_lasting (Connection.MovesBy.any setup.connection) lasting unchanged rfl
      filed.entries).outcome
  refine ⟨by rw [lasts.library, filed.files], ?_⟩
  rw [lasts.library]
  intro tag entry chain held made
  obtain ⟨path, place, stamp, known⟩ := lasts.holds tag entry chain held made
  exact ⟨path, place, stamp, known.imp fun _ _ => .inl⟩

theorem Filed.edit (filed : Filed setup shelf had book) {e : FileEdit}
    (fits : e.Fits (book.library.tree.Seen had) book.library.tree) :
    Filed setup shelf (book.library.tree.Seen had) (book.happen setup (.edit e)) where
  files := filed.files
  entries := by
    intro tag entry chain held made
    obtain ⟨path, place, stamp, known⟩ := filed.entries tag entry chain held made
    exact ⟨path, place, stamp, (known.of_follows (FileTree.follows_edit fits)).imp fun _ _ => .inl⟩

theorem Filed.afterAll (filed : Filed setup shelf had book) {happenings : List Happening}
    (fits : Fits setup had book happenings) :
    ∃ later, Filed setup shelf later (book.afterAll setup happenings) := by
  induction happenings generalizing had book with
  | nil => exact ⟨had, filed⟩
  | cons h rest ih =>
    obtain ⟨first, fits⟩ := fits
    cases h with
    | use u => exact ih (filed.use first) fits
    | edit e => exact ih (filed.edit first) fits

variable {tag : String} {chain : Chain}

theorem Filed.exists_place (filed : Filed setup shelf had book)
    (counts : book.library.chain? book.cache tag = some chain) :
    ∃ path text, path ∈ shelf.places book.library.tree tag ∧
      shelf.read book.library.tree tag path = .ok text ∧
      chain.MadeOf (setup.compiler book.library).Creates tag text := by
  obtain ⟨entry, stamp, held, made, stamped, same⟩ := Library.exists_entry_of_chain? counts
  obtain ⟨path, place, stamp', known⟩ := filed.entries tag entry chain held made
  obtain rfl : stamp' = stamp := Option.some.inj (known.stamped.symm.trans same)
  rw [known.source, Library.fingerprint, filed.files, Shelf.fingerprint, Option.map_eq_some_iff]
    at stamped
  obtain ⟨⟨data, _⟩, there, rfl⟩ := stamped
  obtain ⟨member, text, read, made⟩ := known.holds data there
  exact ⟨path, text, member, read, made⟩

/-- A chain that counts is made of what one of the places of its tag holds now. This is the template
of the tag as long as a search goes past every earlier place: only the stamp of the file that the
chain is from is compared. -/
theorem chain?_of_files (files : book.library.shelf = .files shelf) (fresh : book.cache = [])
    {happenings : List Happening} (fits : Fits setup (fun _ _ => False) book happenings)
    (counts : (afterAll setup book happenings).library.chain?
      (afterAll setup book happenings).cache tag = some chain) :
    let library := (afterAll setup book happenings).library
    ∃ front path back text,
      shelf.places library.tree tag = front ++ path :: back ∧ path ∉ front ∧
      shelf.read library.tree tag path = .ok text ∧
      chain.MadeOf (setup.compiler library).Creates tag text ∧
      ((∀ earlier ∈ front, shelf.Lacks library.tree tag earlier) →
        library.template tag = .ok text) := by
  intro library
  have first : Filed setup shelf (fun _ _ => False) book :=
    ⟨files, fun tag entry chain held => by simp [fresh] at held⟩
  obtain ⟨had, filed⟩ := first.afterAll fits
  obtain ⟨path, text, member, read, made⟩ := filed.exists_place counts
  obtain ⟨front, back, order, before⟩ := List.eq_append_cons_of_mem member
  exact ⟨front, path, back, text, order, before, read, made, fun lacks =>
    Library.template_of_places filed.files order lacks read⟩

end Book

-- Only the second directory has a template yet.
def Library.layered : Library where
  shelf := .files (.ofParts .onePerFile ["a", "b"] "sql" .utf8)
  tree := FileTree.empty.write ["b", "t.sql"] [0x78] 1

theorem Library.statements_shadowing : Template.statements "y" = ["y"] := by
  rw [Template.statements_of_line (by decide) (by decide)]
  decide

namespace Book

def layeredBook : Book Script.Played where
  cache := []
  journal := []
  conn := ⟨[], []⟩
  library := .layered
  connected := true
  autocommit := true

def Below (book : Book Script.Played) : Prop :=
  book.library = .layered ∧ ∃ st : Statement, st.source = "x" ∧
    book.cache.get? "t" = some ⟨.file ["b", "t.sql"], some 1, some ⟨"t", [.statement st]⟩⟩

theorem ends_get_layered : EndsIn (use silentSetup (.get "t")) layeredBook Below := by
  have makes (catalog : Catalog) :
      Ends ((silentSetup.compiler .layered).makeStatement "t" "x") ⟨catalog, layeredBook.conn⟩
        (fun st t => t.cache = catalog.cache ∧ st.source = "x")
        (fun _ t => t.cache = catalog.cache ∧ False) := by
    apply ends_makeStatement_plain "t" rfl
    exact ⟨rfl, rfl⟩
  have connected : layeredBook.connected = true := rfl
  simp only [use, Book.get, Compiler.get, ends_discard, ends_bind, ends_ensureConnected, connected,
    if_true, ends_library?, ends_onDesk, Desk.ends_onCatalog]
  apply Catalog.ends_lookup
  intro journal
  have compiled := @ends_compileUnder_single _ (silentSetup.compiler .layered) "t" "x" rfl
    Library.statements_inner rfl [] (by simp)
    ⟨⟨[], journal⟩, layeredBook.conn⟩ (fun st _ => st.source = "x") (fun _ _ => False) makes
  apply compiled.imp
  · intro chain t ended
    obtain ⟨⟨st, rfl, named⟩, source, resolved, cached⟩ := ended
    cases resolved
    refine ⟨rfl, st, named, ?_⟩
    rw [cached]
    exact Keyed.get?_put_self ..
  · exact fun _ _ failed => failed.1.elim

def shadowing : List Happening :=
  [.use (.get "t"), .edit (.write ["a", "t.sql"] [0x79] 2)]

theorem fits_shadowing : Fits silentSetup (fun _ _ => False) layeredBook shadowing := by
  have below : Below (happen silentSetup layeredBook (.use (.get "t"))) := ends_get_layered.outcome
  have fresh : ¬ Library.layered.tree.Stamped ["a", "t.sql"] 2 := by
    intro stamped
    obtain ⟨data, held⟩ := stamped
    cases held
  refine ⟨rfl, ?_, trivial⟩
  rw [below.1]
  refine ⟨by decide, fun seen => ?_⟩
  rcases seen with (none | stamped) | stamped
  · exact none
  · exact fresh stamped
  · exact fresh stamped

theorem counts_shadowing :
    let book := afterAll silentSetup layeredBook shadowing
    book.library.template "t" = .ok "y" ∧ ∃ st : Statement, st.source = "x" ∧
      book.library.chain? book.cache "t" = some ⟨"t", [.statement st]⟩ := by
  intro book
  have below : Below (happen silentSetup layeredBook (.use (.get "t"))) := ends_get_layered.outcome
  obtain ⟨same, st, named, held⟩ := below
  have library : book.library = { Library.layered with
      tree := Library.layered.tree.write ["a", "t.sql"] [0x79] 2 } := by
    change Library.mk _ _ = _
    rw [same]
    rfl
  have held : book.cache.get? "t" =
      some ⟨.file ["b", "t.sql"], some 1, some ⟨"t", [.statement st]⟩⟩ := held
  rw [library]
  refine ⟨rfl, st, named, ?_⟩
  simp only [Library.chain?, held]
  rfl

theorem chain?_of_files_layered :
    ∃ shelf, layeredBook.library.shelf = .files shelf ∧ layeredBook.cache = [] ∧
      Fits silentSetup (fun _ _ => False) layeredBook shadowing ∧
      let library := (afterAll silentSetup layeredBook shadowing).library
      ∃ chain, library.chain? (afterAll silentSetup layeredBook shadowing).cache "t" =
          some chain ∧
        ∃ front path back text,
          shelf.places library.tree "t" = front ++ path :: back ∧ path ∉ front ∧
          shelf.read library.tree "t" path = .ok text ∧
          chain.MadeOf (silentSetup.compiler library).Creates "t" text ∧
          ((∀ earlier ∈ front, shelf.Lacks library.tree "t" earlier) →
            library.template "t" = .ok text) := by
  obtain ⟨-, st, -, counts⟩ := counts_shadowing
  exact ⟨_, rfl, rfl, fits_shadowing, _, counts, chain?_of_files rfl rfl fits_shadowing counts⟩

/-- A chain counts that was not made of the template of its tag: a file has come before its own. -/
theorem exists_shadowed :
    let book := afterAll silentSetup layeredBook shadowing
    Fits silentSetup (fun _ _ => False) layeredBook shadowing ∧
    ∃ chain, book.library.chain? book.cache "t" = some chain ∧
      ∃ text, book.library.template "t" = .ok text ∧
        ¬ chain.MadeOf (silentSetup.compiler book.library).Creates "t" text := by
  intro book
  obtain ⟨template, st, named, counts⟩ := counts_shadowing
  refine ⟨fits_shadowing, _, counts, "y", template, fun made => ?_⟩
  have blocks := made.blocks
  rw [Library.statements_shadowing] at blocks
  cases blocks with
  | cons head _ =>
    cases head with
    | statement _ made =>
      obtain ⟨conn, conn', created⟩ := made
      have source := (Statement.ends_create_source _ _ _ _ conn).of_ok created
      simp [named] at source

end Book

end QueryBook
