import QueryBook.Proofs.Templates

set_option autoImplicit false

namespace QueryBook

namespace Path

theorem exists_intercalate_concat (names : List String) (name : String) :
    ∃ tail, "/".intercalate (names ++ [name]) = "/".intercalate names ++ tail := by
  cases names with
  | nil => exact ⟨name, by simp⟩
  | cons first rest =>
    refine ⟨"/" ++ "/".intercalate [name], ?_⟩
    rw [String.intercalate_append_of_ne_nil (by simp) (by simp), String.append_assoc]

theorem exists_text_concat {directory : Path} (inside : directory ≠ []) (name : String) :
    ∃ tail, text (directory ++ [name]) = text directory ++ tail := by
  obtain ⟨first, rest, rfl⟩ := List.exists_cons_of_ne_nil inside
  by_cases root : first = "/"
  · obtain ⟨tail, same⟩ := exists_intercalate_concat rest name
    exact ⟨tail, by simp only [root, List.cons_append, text, same, String.append_assoc]⟩
  · by_cases root' : first = "//"
    · obtain ⟨tail, same⟩ := exists_intercalate_concat rest name
      exact ⟨tail, by simp only [root', List.cons_append, text, same, String.append_assoc]⟩
    · obtain ⟨tail, same⟩ := exists_intercalate_concat (first :: rest) name
      have plain (rest : Path) : text (first :: rest) = "/".intercalate (first :: rest) := by
        unfold text
        split <;> simp_all
      exact ⟨tail, by rw [List.cons_append, plain, plain, ← List.cons_append, same]⟩

-- A directory is no longer than what is in it, but for the one that is written as a dot.
theorem utf8ByteSize_text_le (directory : Path) (name : String) :
    (text directory).utf8ByteSize ≤ max 1 (text (directory ++ [name])).utf8ByteSize := by
  by_cases inside : directory = []
  · subst inside
    exact (show (text []).utf8ByteSize ≤ 1 by decide).trans (Nat.le_max_left ..)
  · obtain ⟨tail, same⟩ := exists_text_concat inside name
    refine Nat.le_trans ?_ (Nat.le_max_right ..)
    rw [same, String.utf8ByteSize_append]
    exact Nat.le_add_right ..

end Path

inductive FileEdit where
  | write (place : Path) (data : List UInt8) (stamp : Int)
  | touch (place : Path) (stamp : Int)
  | remove (place : Path)
  | makeDirectory (place : Path)
  deriving DecidableEq, Repr

namespace FileTree

def edit (tree : FileTree) : FileEdit → FileTree
  | .write place data stamp => tree.write place data stamp
  | .touch place stamp => tree.touch place stamp
  | .remove place => tree.remove place
  | .makeDirectory place => tree.makeDirectory place

def Stamped (tree : FileTree) (place : Path) (stamp : Int) : Prop :=
  ∃ data, tree.nodes.get? place = some (.file data stamp)

def Seen (tree : FileTree) (had : Path → Int → Prop) (place : Path) (stamp : Int) : Prop :=
  had place stamp ∨ tree.Stamped place stamp

end FileTree

-- Only files are written and removed, and a file gets no stamp that it `had` before.
def FileEdit.Fits (had : Path → Int → Prop) (tree : FileTree) : FileEdit → Prop
  | .write place _ stamp => tree.isDirectoryAt place = false ∧ ¬ had place stamp
  | .touch place stamp => ¬ had place stamp
  | .remove place => tree.isDirectoryAt place = false
  | .makeDirectory _ => True

namespace FileTree

variable {tree later : FileTree} {had : Path → Int → Prop}

-- No directory is lost, and a file with a stamp that it had before is what it was then. What may be
-- read, and what may be looked at, stays the same.
structure Follows (had : Path → Int → Prop) (tree later : FileTree) : Prop where
  directories : ∀ place, tree.isDirectoryAt place = true → later.isDirectoryAt place = true
  files : ∀ place data stamp, had place stamp →
    later.nodes.get? place = some (.file data stamp) →
    tree.nodes.get? place = some (.file data stamp)
  readable : later.readable = tree.readable
  refuses : later.refuses = tree.refuses

theorem isDirectoryAt_iff {place : Path} :
    tree.isDirectoryAt place = true ↔ place = [] ∨ tree.nodes.get? place = some .directory := by
  simp [isDirectoryAt]

theorem get?_makeDirectory (tree : FileTree) (path place : Path) :
    (tree.makeDirectory path).nodes.get? place = tree.nodes.get? place ∨
      tree.nodes.get? place = none ∧
        (tree.makeDirectory path).nodes.get? place = some .directory := by
  unfold makeDirectory
  apply List.foldlRecOn
    (motive := fun made : FileTree => made.nodes.get? place = tree.nodes.get? place ∨
      tree.nodes.get? place = none ∧ made.nodes.get? place = some .directory)
  · exact .inl rfl
  · intro made reached depth _
    simp only
    split
    · exact reached
    next free =>
      rw [Keyed.get?_put]
      split
      next same =>
        subst same
        simp only [Option.isSome_iff_ne_none, ne_eq, not_not] at free
        rcases reached with kept | ⟨-, made⟩
        · exact .inr ⟨kept.symm.trans free, rfl⟩
        · simp [free] at made
      next => exact reached

theorem access_makeDirectory (tree : FileTree) (path : Path) :
    (tree.makeDirectory path).readable = tree.readable ∧
      (tree.makeDirectory path).refuses = tree.refuses := by
  unfold makeDirectory
  refine List.foldlRecOn (motive := fun made : FileTree => made.readable = tree.readable ∧
    made.refuses = tree.refuses) _ _ ⟨rfl, rfl⟩ fun made same depth _ => ?_
  simp only
  split <;> exact same

theorem follows_makeDirectory (tree : FileTree) (path : Path) :
    Follows had tree (tree.makeDirectory path) where
  directories := by
    intro place held
    rw [isDirectoryAt_iff] at held ⊢
    rcases get?_makeDirectory tree path place with kept | ⟨-, made⟩
    · exact kept ▸ held
    · exact .inr made
  files := by
    intro place data stamp _ held
    rcases get?_makeDirectory tree path place with kept | ⟨-, made⟩
    · exact kept.symm.trans held
    · simp [made] at held
  readable := (access_makeDirectory tree path).1
  refuses := (access_makeDirectory tree path).2

theorem Follows.refl (had : Path → Int → Prop) (tree : FileTree) : Follows had tree tree :=
  ⟨fun _ held => held, fun _ _ _ _ held => held, rfl, rfl⟩

theorem Follows.put {place : Path} {data : List UInt8} {stamp : Int}
    (follows : Follows had tree later) (file : tree.nodes.get? place ≠ some .directory)
    (fresh : ¬ had place stamp) :
    Follows had tree { later with nodes := later.nodes.put place (.file data stamp) } where
  directories := by
    intro other held
    rw [isDirectoryAt_iff, Keyed.get?_put]
    have held' := isDirectoryAt_iff.mp (follows.directories other held)
    rcases isDirectoryAt_iff.mp held with root | directory
    · exact .inl root
    · have different : other ≠ place := fun same => file (same ▸ directory)
      rwa [if_neg different]
  files := by
    intro other data' stamp' old held
    rw [Keyed.get?_put] at held
    split at held
    next same =>
      cases held
      exact (fresh (same ▸ old)).elim
    next => exact follows.files other data' stamp' old held
  readable := follows.readable
  refuses := follows.refuses

theorem follows_remove {place : Path} (file : tree.isDirectoryAt place = false) :
    Follows had tree (tree.remove place) where
  directories := by
    intro other held
    have different : other ≠ place := by
      rintro rfl
      simp [file] at held
    rw [isDirectoryAt_iff] at held ⊢
    exact held.imp_right (Keyed.get?_erase_of_ne _ different).trans
  files := by
    intro other data stamp _ held
    by_cases same : other = place
    · simp [remove, same] at held
    · exact (Keyed.get?_erase_of_ne _ same).symm.trans held
  readable := rfl
  refuses := rfl

theorem follows_edit {e : FileEdit} (fits : e.Fits had tree) : Follows had tree (tree.edit e) := by
  cases e with
  | write place data stamp =>
    obtain ⟨file, fresh⟩ := fits
    refine (follows_makeDirectory tree place.dropLast).put (fun directory => ?_) fresh
    simp [isDirectoryAt_iff.mpr (.inr directory)] at file
  | touch place stamp =>
    simp only [edit, touch]
    split
    next data old held => exact (Follows.refl had tree).put (by simp [held]) fits
    next => exact .refl had tree
  | remove place => exact follows_remove fits
  | makeDirectory place => exact follows_makeDirectory tree place

theorem enter_of_follows (follows : Follows had tree later) {place next : Path} {name : String}
    (entered : tree.enter place name = some next) : later.enter place name = some next := by
  unfold enter at entered ⊢
  split at entered
  next up =>
    split at entered
    next usable => rw [if_pos up, if_pos ⟨usable.1, follows.directories place usable.2⟩, entered]
    next => cases entered
  next down => rw [if_neg down, entered]

theorem locate_of_follows (follows : Follows had tree later) {path place : Path}
    (located : tree.locate path = some place) : later.locate path = some place := by
  unfold locate at located ⊢
  generalize ([] : Path) = start at located ⊢
  induction path generalizing start with
  | nil => exact located
  | cons name path ih =>
    obtain ⟨next, entered, walked⟩ := Option.bind_eq_some_iff.mp located
    exact Option.bind_eq_some_iff.mpr ⟨next, enter_of_follows follows entered, ih next walked⟩

theorem directory?_of_follows (follows : Follows had tree later) {path place : Path}
    (held : tree.directory? path = some place) : later.directory? path = some place := by
  obtain ⟨located, directory⟩ := Option.filter_eq_some_iff.mp held
  exact Option.filter_eq_some_iff.mpr
    ⟨locate_of_follows follows located, follows.directories place directory⟩

structure Admits (tree : FileTree) (path : Path) : Prop where
  whole : path.isNull = false
  unrefused : tree.refusal? path = none

theorem file?_eq_some_iff {path : Path} {data : List UInt8} {stamp : Int} :
    tree.file? path = some (data, stamp) ↔ tree.Admits path ∧
      ∃ place, tree.locate path = some place ∧
        tree.nodes.get? place = some (.file data stamp) := by
  rw [← Option.bind_eq_some_iff]
  unfold file?
  split
  next data' stamp' whole unrefused node => simp [node, Admits.mk whole unrefused]
  next other =>
    constructor
    · intro none
      cases none
    · rintro ⟨⟨whole, unrefused⟩, node⟩
      exact (other data stamp whole unrefused node).elim

-- With more directories the system goes further along a path, and may refuse more.
theorem refusalFrom?_of_follows (follows : Follows had tree later) {path place : Path}
    {names : List String} (passes : later.refusalFrom? path place names = none) :
    tree.refusalFrom? path place names = none := by
  induction names generalizing place with
  | nil => rfl
  | cons name names ih =>
    unfold refusalFrom? at passes ⊢
    split
    next directory =>
      rw [if_pos (follows.directories place directory)] at passes
      split at passes
      · cases passes
      next short =>
        rw [if_neg short]
        cases entered : tree.enter place name with
        | none => rfl
        | some next =>
          simp only [enter_of_follows follows entered, Option.or_eq_none_iff] at passes ⊢
          exact ⟨follows.refuses ▸ passes.1, ih passes.2⟩
    next => rfl

theorem Admits.of_follows (follows : Follows had tree later) {path : Path}
    (admits : later.Admits path) : tree.Admits path where
  whole := admits.whole
  unrefused := by
    have passes := admits.unrefused
    simp only [refusal?, admits.whole, Bool.false_eq_true, if_false] at passes ⊢
    split at passes
    · cases passes
    next short =>
      rw [if_neg short]
      exact refusalFrom?_of_follows follows passes

theorem refusalFrom?_of_append {path whole place : Path} {names below : List String}
    (passes : tree.refusalFrom? whole place (names ++ below) = none) :
    tree.refusalFrom? path place names = none := by
  induction names generalizing place with
  | nil => rfl
  | cons name names ih =>
    rw [List.cons_append] at passes
    unfold refusalFrom? at passes ⊢
    split
    next directory =>
      rw [if_pos directory] at passes
      split at passes
      · cases passes
      next short =>
        rw [if_neg short]
        cases entered : tree.enter place name with
        | none => rfl
        | some next =>
          simp only [entered, Option.or_eq_none_iff] at passes ⊢
          exact ⟨passes.1, ih passes.2⟩
    next => rfl

theorem Admits.of_append {directory : Path} {name : String}
    (admits : tree.Admits (directory ++ [name])) : tree.Admits directory where
  whole := by
    have whole := admits.whole
    simp only [Path.isNull, List.any_append, Bool.or_eq_false_iff] at whole ⊢
    exact whole.1
  unrefused := by
    have whole := admits.whole
    have passes := admits.unrefused
    have plain : directory.isNull = false := by
      simp only [Path.isNull, List.any_append, Bool.or_eq_false_iff] at whole ⊢
      exact whole.1
    simp only [refusal?, whole, plain, Bool.false_eq_true, if_false] at passes ⊢
    split at passes
    · cases passes
    next short =>
      have shorter := Path.utf8ByteSize_text_le directory name
      rw [if_neg (by omega)]
      exact refusalFrom?_of_append passes

theorem mem_namesIn {place : Path} {name : String} {node : Node}
    (held : tree.nodes.get? (place ++ [name]) = some node) : name ∈ tree.namesIn place :=
  List.mem_filterMap.mpr ⟨place ++ [name], Keyed.mem_keys_of_get? held, by simp⟩

theorem mem_namesIn_of_file? {directory place : Path} {name : String} {file : List UInt8 × Int}
    (located : tree.locate directory = some place) (down : name ≠ "..")
    (held : tree.file? (directory ++ [name]) = some file) : name ∈ tree.namesIn place := by
  obtain ⟨-, last, reached, node⟩ := file?_eq_some_iff.mp held
  rw [locate_append, located, Option.bind_some, List.foldlM_cons, enter, if_neg down] at reached
  cases reached
  exact mem_namesIn node

theorem isReadable_of_bytes {path : Path} {data : List UInt8} (read : tree.bytes path = .ok data) :
    tree.isReadable path = true := by
  unfold bytes at read
  split at read
  · cases read
  · cases read
  next =>
    split at read
    next readable => exact readable
    next => cases read

theorem offers_of_file? {path : Path} {file : List UInt8 × Int} (held : tree.file? path = some file)
    (readable : tree.isReadable path = true) : tree.offers path = .ok true := by
  have admits := (file?_eq_some_iff.mp held).1
  simp [offers, isFile, admits.unrefused, held, readable]

theorem bytes_of_file? {path : Path} {data : List UInt8} {stamp : Int}
    (held : tree.file? path = some (data, stamp)) (readable : tree.isReadable path = true) :
    tree.bytes path = .ok data := by
  have admits := (file?_eq_some_iff.mp held).1
  simp [bytes, admits.unrefused, held, readable]

theorem isReadable_of_follows (follows : Follows had tree later) {path place : Path}
    (located : tree.locate path = some place) (readable : tree.isReadable path = true) :
    later.isReadable path = true := by
  simpa [isReadable, locate_of_follows follows located, located, follows.readable] using readable

end FileTree

namespace FileShelf

def Stop.path? : Stop → Option Path
  | .file path => some path
  | .refused path _ => some path
  | .missing _ => none

def places (shelf : FileShelf) (tree : FileTree) (tag : String) : List Path :=
  match shelf.arrangement with
  | .onePerFile =>
    if tag = "" ∨ '/' ∈ tag.toList then [] else shelf.directories.map (· ++ shelf.pathTo tag)
  | .manyPerFile => (shelf.walk tree).filterMap Stop.path?

def Lacks (shelf : FileShelf) (tree : FileTree) (tag : String) (path : Path) : Prop :=
  match shelf.arrangement with
  | .onePerFile => tree.offers path = .ok false
  | .manyPerFile => shelf.sectionIn tree tag path = .ok none

variable {shelf : FileShelf} {tree later : FileTree} {tag text : String} {path : Path}

theorem mem_filterMap_path? {stops : List Stop} (met : .file path ∈ stops) :
    path ∈ stops.filterMap Stop.path? :=
  List.mem_filterMap.mpr ⟨_, met, rfl⟩

theorem exists_bytes_of_refused {fault : SystemFault} (met : .refused path fault ∈ shelf.walk tree) :
    ∃ fault, tree.bytes path = .error fault := by
  have unread (unreadable : tree.isReadable path = false) :
      ∃ fault, tree.bytes path = .error fault := by
    cases read : tree.bytes path with
    | error fault => exact ⟨fault, rfl⟩
    | ok data => simp [FileTree.isReadable_of_bytes read] at unreadable
  obtain ⟨directory, -, stops⟩ := List.mem_flatMap.mp met
  split at stops
  next refused =>
    cases List.mem_singleton.mp stops
    exact ⟨_, by rw [FileTree.bytes, refused]⟩
  · simp at stops
  next place _ opened =>
    have located := (Option.filter_eq_some_iff.mp opened).1
    rcases mem_stopsIn_iff.mp stops with ⟨-, name, -, -, -, stopped⟩ | ⟨closed, same⟩
    · rcases stop?_eq_some_iff.mp stopped with ⟨same, -⟩ | ⟨_, same, refused⟩
      · cases same
      · cases same
        unfold FileTree.offers FileTree.isFile at refused
        cases looked : tree.refusal? (directory ++ [name]) with
        | none => simp [looked] at refused
        | some fault => exact ⟨fault, by rw [FileTree.bytes, looked]⟩
    · cases same
      exact unread (by simpa [FileTree.isReadable, located] using closed)

theorem mem_places_of_resolve (found : (shelf.resolve tree tag).result = .ok path) :
    path ∈ shelf.places tree tag := by
  unfold resolve at found
  unfold places
  cases kind : shelf.arrangement with
  | onePerFile =>
    simp only [kind, searchNames] at found ⊢
    split at found
    · simp at found
    next usable =>
      rw [if_neg usable]
      exact (offers_of_firstOffered found).1
  | manyPerFile =>
    simp only [kind] at found ⊢
    exact mem_filterMap_path? (mem_of_searchSections found)

theorem firstOffered_cases (tree : FileTree) (absent : Error) (paths : List Path) :
    (∃ front path back, paths = front ++ path :: back ∧
      (∀ earlier ∈ front, tree.offers earlier = .ok false) ∧
      (tree.offers path = .ok true ∧ firstOffered tree absent paths = .ok path ∨
        ∃ fault, tree.offers path = .error fault ∧
          firstOffered tree absent paths = .error (.system fault))) ∨
      (∀ path ∈ paths, tree.offers path = .ok false) ∧
        firstOffered tree absent paths = .error absent := by
  induction paths with
  | nil => exact .inr ⟨by simp, rfl⟩
  | cons path rest ih =>
    rcases offered : tree.offers path with fault | _ | _
    · exact .inl ⟨[], path, rest, rfl, by simp, .inr ⟨fault, offered, by
        simp only [firstOffered, offered]⟩⟩
    · have next : firstOffered tree absent (path :: rest) = firstOffered tree absent rest := by
        simp only [firstOffered, offered]
      rw [next]
      rcases ih with ⟨front, later, back, rfl, lacks, ends⟩ | ⟨lacks, missing⟩
      · exact .inl ⟨path :: front, later, back, rfl,
          List.forall_mem_cons.mpr ⟨offered, lacks⟩, ends⟩
      · exact .inr ⟨List.forall_mem_cons.mpr ⟨offered, lacks⟩, missing⟩
    · exact .inl ⟨[], path, rest, rfl, by simp, .inl ⟨offered, by
        simp only [firstOffered, offered]⟩⟩

theorem firstOffered_of_append {absent : Error} {front back : List Path}
    (lacks : ∀ earlier ∈ front, tree.offers earlier = .ok false)
    (offered : tree.offers path = .ok true) :
    firstOffered tree absent (front ++ path :: back) = .ok path := by
  induction front with
  | nil => simp only [List.nil_append, firstOffered, offered]
  | cons earlier front ih =>
    simp only [List.cons_append, firstOffered, lacks earlier (by simp)]
    exact ih fun other member => lacks other (List.mem_cons_of_mem _ member)

theorem searchSections_of_places {front back : List Path} {stops : List Stop}
    (blocked : ∀ path fault, .refused path fault ∈ stops →
      ∀ held, shelf.sectionIn tree tag path ≠ .ok held)
    (order : stops.filterMap Stop.path? = front ++ path :: back)
    (lacks : ∀ earlier ∈ front, shelf.sectionIn tree tag earlier = .ok none)
    (held : shelf.sectionIn tree tag path = .ok (some text)) :
    (shelf.searchSections tree tag stops).result = .ok path := by
  induction stops generalizing front with
  | nil => simp at order
  | cons stop stops ih =>
    have later {front : List Path} := @ih front fun path fault member =>
      blocked path fault (List.mem_cons_of_mem _ member)
    cases stop with
    | missing directory => exact later order lacks
    | refused first fault =>
      have reads := blocked first fault (List.mem_cons_self ..)
      rw [List.filterMap_cons_some (f := Stop.path?) (b := first) rfl] at order
      cases front with
      | nil =>
        obtain ⟨rfl, -⟩ := List.cons.inj order
        exact (reads _ held).elim
      | cons earlier front =>
        obtain ⟨rfl, -⟩ := List.cons.inj order
        exact (reads _ (lacks first (by simp))).elim
    | file first =>
      rw [List.filterMap_cons_some (f := Stop.path?) (b := first) rfl] at order
      cases front with
      | nil =>
        obtain ⟨rfl, -⟩ := List.cons.inj order
        simp only [searchSections, held]
      | cons earlier front =>
        obtain ⟨rfl, rest⟩ := List.cons.inj order
        simp only [searchSections, lacks first (by simp)]
        exact later rest fun earlier member => lacks earlier (List.mem_cons_of_mem _ member)

theorem exists_bytes_of_content {content : List Char}
    (held : shelf.content tree path = .ok content) : ∃ data, tree.bytes path = .ok data := by
  unfold FileShelf.content at held
  split at held
  · cases held
  next data read => exact ⟨data, read⟩

theorem exists_bytes_of_sectionIn {held : Option String}
    (read : shelf.sectionIn tree tag path = .ok held) : ∃ data, tree.bytes path = .ok data := by
  unfold sectionIn at read
  split at read
  · cases read
  next content held => exact exists_bytes_of_content held

theorem exists_bytes_of_read (held : shelf.read tree tag path = .ok text) :
    ∃ data, tree.bytes path = .ok data := by
  unfold read at held
  split at held
  · cases content : shelf.content tree path with
    | error e => simp [content, Functor.map, Except.map] at held
    | ok cs => exact exists_bytes_of_content content
  · split at held
    · cases held
    next found => exact exists_bytes_of_sectionIn found
    next found => exact exists_bytes_of_sectionIn found

theorem not_refused_of_bytes {data : List UInt8} (read : tree.bytes path = .ok data)
    (fault : SystemFault) : .refused path fault ∉ shelf.walk tree := by
  intro met
  obtain ⟨fault, failed⟩ := exists_bytes_of_refused met
  cases read.symm.trans failed

theorem resolve_of_places {front back : List Path}
    (order : shelf.places tree tag = front ++ path :: back)
    (lacks : ∀ earlier ∈ front, shelf.Lacks tree tag earlier)
    (held : shelf.read tree tag path = .ok text) :
    (shelf.resolve tree tag).result = .ok path := by
  obtain ⟨data, bytes⟩ := exists_bytes_of_read held
  obtain ⟨stamp, there⟩ := FileTree.file?_of_bytes bytes
  unfold places at order
  unfold Lacks at lacks
  unfold read at held
  unfold resolve
  split at order
  next one =>
    simp only [one] at lacks ⊢
    split at order
    · simp at order
    next usable =>
      rw [searchNames, if_neg usable, order]
      exact firstOffered_of_append lacks
        (FileTree.offers_of_file? there (FileTree.isReadable_of_bytes bytes))
  next many =>
    simp only [many] at lacks held ⊢
    split at held
    · cases held
    next found =>
      refine searchSections_of_places (fun path fault met held read => ?_) order lacks found
      obtain ⟨data, read⟩ := exists_bytes_of_sectionIn read
      exact not_refused_of_bytes read fault met
    · cases held

theorem mem_walk_of_follows {had : Path → Int → Prop} (follows : tree.Follows had later)
    (met : .file path ∈ shelf.walk tree) (offered : later.offers path = .ok true) :
    .file path ∈ shelf.walk later := by
  obtain ⟨directory, listed, name, rfl, -, ⟨place, opened, readable, -⟩, visible, suffix, -⟩ :=
    mem_walk_iff.mp met
  have down : name ≠ ".." := by
    rintro rfl
    cases visible
  obtain ⟨data, stamp, there, -⟩ := FileTree.exists_file_of_offers offered
  have admits := (FileTree.file?_eq_some_iff.mp there).1.of_append
  have opened' := FileTree.directory?_of_follows follows opened
  have located := (Option.filter_eq_some_iff.mp opened').1
  exact mem_walk_iff.mpr ⟨directory, listed, name, rfl, admits.unrefused,
    ⟨place, opened', by rw [follows.readable, readable],
      FileTree.mem_namesIn_of_file? located down there⟩, visible, suffix, offered⟩

theorem mem_places_of_follows {had : Path → Int → Prop} (follows : tree.Follows had later)
    (member : path ∈ shelf.places tree tag) (held : shelf.read tree tag path = .ok text)
    (offered : later.offers path = .ok true) : path ∈ shelf.places later tag := by
  unfold places at member ⊢
  split at member
  · exact member
  · obtain ⟨stop, met, same⟩ := List.mem_filterMap.mp member
    cases stop with
    | missing directory => cases same
    | file path' =>
      cases same
      exact mem_filterMap_path? (mem_walk_of_follows follows met offered)
    | refused path' fault =>
      cases same
      obtain ⟨data, bytes⟩ := exists_bytes_of_read held
      exact (not_refused_of_bytes bytes fault met).elim

theorem read_of_bytes (same : later.bytes path = tree.bytes path) :
    shelf.read later tag path = shelf.read tree tag path := by
  simp only [read, sectionIn, content, same]

end FileShelf

namespace Library

variable {library : Library} {shelf : FileShelf} {tag text : String} {path : Path}

theorem exists_path_of_resolve {source : Source} (files : library.shelf = .files shelf)
    (resolved : (library.shelf.resolve library.tree tag).result = .ok source) :
    ∃ path, source = .file path ∧ (shelf.resolve library.tree tag).result = .ok path := by
  rw [files] at resolved
  simp only [Shelf.resolve] at resolved
  cases found : (shelf.resolve library.tree tag).result with
  | error e => simp [found, Functor.map, Except.map] at resolved
  | ok path =>
    rw [found] at resolved
    cases resolved
    exact ⟨path, rfl, rfl⟩

theorem template_of_files (files : library.shelf = .files shelf)
    (resolved : (shelf.resolve library.tree tag).result = .ok path) :
    library.template tag = shelf.read library.tree tag path := by
  simp only [template, files, Shelf.resolve, resolved, Functor.map, Except.map, Shelf.read]

theorem template_of_unresolved {e : Error} (files : library.shelf = .files shelf)
    (unresolved : (shelf.resolve library.tree tag).result = .error e) :
    library.template tag = .error e := by
  simp only [template, files, Shelf.resolve, unresolved, Functor.map, Except.map]

theorem template_of_places {front back : List Path} (files : library.shelf = .files shelf)
    (order : shelf.places library.tree tag = front ++ path :: back)
    (lacks : ∀ earlier ∈ front, shelf.Lacks library.tree tag earlier)
    (held : shelf.read library.tree tag path = .ok text) :
    library.template tag = .ok text :=
  (template_of_files files (FileShelf.resolve_of_places order lacks held)).trans held

end Library

end QueryBook
