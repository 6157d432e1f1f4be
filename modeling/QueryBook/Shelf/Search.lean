import QueryBook.Shelf.Basic

set_option autoImplicit false

namespace QueryBook

structure Search (α : Type) where
  skipped : List Path
  result : Except Error α

namespace FileShelf

def searchSections (shelf : FileShelf) (tree : FileTree) (tag : String) : List Stop → Search Path
  | [] => ⟨[], .error (.unknownTag tag)⟩
  | .missing directory :: rest =>
    let search := shelf.searchSections tree tag rest
    { search with skipped := directory :: search.skipped }
  | .refused _ fault :: _ => ⟨[], .error (.system fault)⟩
  | .file path :: rest =>
    match shelf.sectionIn tree tag path with
    | .error e => ⟨[], .error e⟩
    | .ok (some _) => ⟨[], .ok path⟩
    | .ok none => shelf.searchSections tree tag rest

def fileName (shelf : FileShelf) (tag : String) : String :=
  tag ++ "." ++ shelf.extension

-- From a directory of the shelf on; the extension may lead into directories below it.
def pathTo (shelf : FileShelf) (tag : String) : Path :=
  Path.names (shelf.fileName tag).toList

def firstOffered (tree : FileTree) (absent : Error) : List Path → Except Error Path
  | [] => .error absent
  | path :: rest =>
    match tree.offers path with
    | .error fault => .error (.system fault)
    | .ok true => .ok path
    | .ok false => firstOffered tree absent rest

def searchNames (shelf : FileShelf) (tree : FileTree) (tag : String) : Except Error Path :=
  if tag = "" ∨ '/' ∈ tag.toList then .error (.unknownTag tag)
  else
    firstOffered tree (.noFile tag shelf.extension)
      (shelf.directories.map (· ++ shelf.pathTo tag))

def resolve (shelf : FileShelf) (tree : FileTree) (tag : String) : Search Path :=
  match shelf.arrangement with
  | .onePerFile => ⟨[], shelf.searchNames tree tag⟩
  | .manyPerFile => shelf.searchSections tree tag (shelf.walk tree)

def read (shelf : FileShelf) (tree : FileTree) (tag : String) (path : Path) : Except Error String :=
  match shelf.arrangement with
  | .onePerFile => String.ofList <$> shelf.content tree path
  | .manyPerFile =>
    match shelf.sectionIn tree tag path with
    | .error e => .error e
    | .ok (some text) => .ok text
    | .ok none => .error (.unknownTag tag)

def tagsIn (shelf : FileShelf) (tree : FileTree) (path : Path) : Except Error (List String) :=
  match shelf.arrangement with
  | .onePerFile =>
    let name := (path.getLastD "").toList
    .ok ((Path.splitSuffix? name).map fun (stem, _) => String.ofList stem).toList
  | .manyPerFile => Section.listedTags <$> shelf.content tree path

def collectTags (shelf : FileShelf) (tree : FileTree) : List Stop → Search (List String)
  | [] => ⟨[], .ok []⟩
  | .missing directory :: rest =>
    let search := shelf.collectTags tree rest
    { search with skipped := directory :: search.skipped }
  | .refused _ fault :: _ => ⟨[], .error (.system fault)⟩
  | .file path :: rest =>
    match shelf.tagsIn tree path with
    | .error e => ⟨[], .error e⟩
    | .ok tags =>
      let search := shelf.collectTags tree rest
      { search with result := (tags ++ ·) <$> search.result }

def ending (shelf : FileShelf) : List Char :=
  '.' :: shelf.extension.toList.takeWhile (· ≠ '/')

def findable (shelf : FileShelf) (tree : FileTree) : List String :=
  match shelf.arrangement with
  | .onePerFile =>
    "." :: tree.nodes.keys.flatMap fun path =>
      path.map fun name =>
        String.ofList (name.toList.take (name.toList.length - shelf.ending.length))
  | .manyPerFile =>
    tree.nodes.flatMap fun (_, node) =>
      match node with
      | .directory => []
      | .file data _ =>
        match shelf.encoding.decode data with
        | .ok content => Section.candidates content
        | .error _ => []

end FileShelf

namespace Shelf

def resolve (shelf : Shelf) (tree : FileTree) (tag : String) : Search Source :=
  match shelf with
  | .memory shelf =>
    ⟨[], if (shelf.templates.get? tag).isSome then .ok (.tag tag) else .error (.unknownTag tag)⟩
  | .files shelf =>
    let search := shelf.resolve tree tag
    ⟨search.skipped, Source.file <$> search.result⟩

def read (shelf : Shelf) (tree : FileTree) (tag : String) (source : Source) : Except Error String :=
  match shelf, source with
  | .memory shelf, .tag name =>
    match shelf.templates.get? name with
    | some (_, sql) => .ok sql
    | none => .error (.unknownTag name)
  | .files shelf, .file path => shelf.read tree tag path
  | _, _ => .error (.unknownTag tag)

-- Changes whenever what a source holds changes; `none` when the source is gone.
def fingerprint (shelf : Shelf) (tree : FileTree) (source : Source) : Option Int :=
  match shelf, source with
  | .memory shelf, .tag name =>
    (shelf.templates.get? name).map fun (revision, _) => (revision : Int)
  | .files _, .file path => (tree.file? path).map (·.2)
  | _, _ => none

def toc (shelf : Shelf) (tree : FileTree) : Search (List String) :=
  match shelf with
  | .memory shelf => ⟨[], .ok (sortedNames shelf.templates.keys)⟩
  | .files shelf =>
    let search := shelf.collectTags tree (shelf.walk tree)
    { search with result := sortedNames <$> search.result }

def findable (shelf : Shelf) (tree : FileTree) : List String :=
  match shelf with
  | .memory shelf => shelf.templates.keys
  | .files shelf => shelf.findable tree

end Shelf

namespace FileTree

theorem exists_node_of_file? {tree : FileTree} {path : Path} {data : List UInt8} {stamp : Int}
    (found : tree.file? path = some (data, stamp)) :
    ∃ place, tree.locate path = some place ∧ (place, .file data stamp) ∈ tree.nodes := by
  unfold file? at found
  split at found
  next data' stamp' _ _ node =>
    obtain ⟨place, located, held⟩ := Option.bind_eq_some_iff.mp node
    simp only [Option.some.injEq, Prod.mk.injEq] at found
    obtain ⟨rfl, rfl⟩ := found
    exact ⟨place, located, Keyed.mem_of_get? held⟩
  next => simp at found

theorem exists_file_of_offers {tree : FileTree} {path : Path}
    (offered : tree.offers path = .ok true) :
    ∃ data stamp, tree.file? path = some (data, stamp) ∧ tree.bytes path = .ok data := by
  unfold offers isFile at offered
  cases looked : tree.refusal? path with
  | some fault => simp [looked] at offered
  | none =>
    cases held : tree.file? path with
    | none => simp [looked, held] at offered
    | some found =>
      obtain ⟨data, stamp⟩ := found
      have readable : tree.isReadable path = true := by simpa [looked, held] using offered
      exact ⟨data, stamp, rfl, by simp [bytes, looked, held, readable]⟩

theorem file?_of_bytes {tree : FileTree} {path : Path} {data : List UInt8}
    (read : tree.bytes path = .ok data) : ∃ stamp, tree.file? path = some (data, stamp) := by
  unfold bytes at read
  split at read
  · cases read
  · cases read
  next data' stamp _ held =>
    split at read
    · cases read
      exact ⟨stamp, held⟩
    · cases read

theorem locate_append (tree : FileTree) (directory below : Path) :
    tree.locate (directory ++ below) =
      (tree.locate directory).bind (below.foldlM tree.enter ·) := by
  simp [locate, List.foldlM_append]

theorem exists_prefix_of_foldlM_enter {tree : FileTree} {place last : Path} {below : List String}
    (walked : below.foldlM tree.enter place = some last) (held : last ∈ tree.nodes.keys) :
    ∃ node ∈ tree.nodes.keys, place <+: node := by
  induction below generalizing place with
  | nil =>
    obtain rfl : place = last := by simpa using walked
    exact ⟨place, held, List.prefix_rfl⟩
  | cons name below ih =>
    obtain ⟨next, entered, walked⟩ := Option.bind_eq_some_iff.mp walked
    obtain ⟨node, inTree, above⟩ := ih walked
    unfold enter at entered
    split at entered
    · split at entered
      next usable =>
        obtain ⟨inside, directory⟩ := usable
        have here : tree.nodes.get? place = some .directory := by
          simpa [isDirectoryAt, inside] using directory
        exact ⟨place, Keyed.mem_keys_of_get? here, List.prefix_rfl⟩
      next => simp at entered
    · obtain rfl : place ++ [name] = next := by simpa using entered
      exact ⟨node, inTree, (List.prefix_append ..).trans above⟩

end FileTree

namespace FileShelf

theorem exists_pathTo {shelf : FileShelf} {tag : String} (nonempty : tag ≠ "")
    (oneName : '/' ∉ tag.toList) :
    ∃ below, shelf.pathTo tag = String.ofList (tag.toList ++ shelf.ending) :: below := by
  obtain ⟨parts, split⟩ := Text.exists_splitOn '/' (shelf.fileName tag).toList
  have first : (shelf.fileName tag).toList.takeWhile (· ≠ '/') = tag.toList ++ shelf.ending := by
    have letters : (shelf.fileName tag).toList = tag.toList ++ ('.' :: shelf.extension.toList) := by
      simp [fileName]
    rw [letters, List.takeWhile_append_of_pos]
    · simp [ending]
    · intro c held
      simpa using ne_of_mem_of_not_mem held oneName
  have long : 1 < (tag.toList ++ shelf.ending).length := by
    have := List.length_pos_iff.mpr fun none => nonempty (String.toList_eq_nil_iff.mp none)
    simp only [List.length_append, ending, List.length_cons]
    omega
  have kept (name : String) (short : name.toList.length ≤ 1) :
      String.ofList (tag.toList ++ shelf.ending) ≠ name := by
    rintro rfl
    rw [String.toList_ofList] at short
    omega
  rw [first] at split
  refine ⟨(parts.map String.ofList).filter fun name => name ≠ "" ∧ name ≠ ".", ?_⟩
  rw [pathTo, Path.names, split, List.map_cons, List.filter_cons_of_pos]
  exact decide_eq_true ⟨kept "" (by decide), kept "." (by decide)⟩

theorem offers_of_firstOffered {tree : FileTree} {absent : Error} {paths : List Path} {path : Path}
    (found : firstOffered tree absent paths = .ok path) :
    path ∈ paths ∧ tree.offers path = .ok true := by
  fun_induction firstOffered tree absent paths with
  | case1 => cases found
  | case2 => cases found
  | case3 first rest offered =>
    cases found
    exact ⟨List.mem_cons_self .., offered⟩
  | case4 first rest _ ih =>
    obtain ⟨member, offered⟩ := ih found
    exact ⟨List.mem_cons_of_mem _ member, offered⟩

theorem mem_findable_of_searchNames {shelf : FileShelf} {tree : FileTree} {tag : String}
    {path : Path}
    (one : shelf.arrangement = .onePerFile) (found : shelf.searchNames tree tag = .ok path) :
    tag ∈ shelf.findable tree := by
  unfold searchNames at found
  split at found
  · simp at found
  rename_i usable
  obtain ⟨nonempty, oneName⟩ := not_or.mp usable
  obtain ⟨below, way⟩ := @exists_pathTo shelf tag nonempty oneName
  obtain ⟨member, offered⟩ := offers_of_firstOffered found
  obtain ⟨directory, -, rfl⟩ := List.mem_map.mp member
  obtain ⟨data, stamp, held, -⟩ := FileTree.exists_file_of_offers offered
  obtain ⟨place, located, node⟩ := FileTree.exists_node_of_file? held
  rw [FileTree.locate_append, way] at located
  obtain ⟨above, -, walked⟩ := Option.bind_eq_some_iff.mp located
  obtain ⟨next, entered, walked⟩ := Option.bind_eq_some_iff.mp walked
  simp only [findable, one, List.mem_cons]
  by_cases up : String.ofList (tag.toList ++ shelf.ending) = ".."
  · left
    have letters : tag.toList ++ shelf.ending = ['.', '.'] := by
      simpa using congrArg String.toList up
    have chars : tag.toList ≠ [] := fun none => nonempty (String.toList_eq_nil_iff.mp none)
    apply String.toList_injective
    cases chars : tag.toList with
    | nil => contradiction
    | cons c rest => cases rest <;> simp_all [ending]
  · right
    simp only [FileTree.enter, up, if_false, Option.some.injEq] at entered
    subst entered
    obtain ⟨node', inTree, reached⟩ :=
      FileTree.exists_prefix_of_foldlM_enter walked (List.mem_map_of_mem (f := (·.1)) node)
    refine List.mem_flatMap.mpr ⟨node', inTree, List.mem_map.mpr
      ⟨String.ofList (tag.toList ++ shelf.ending), reached.subset (by simp), ?_⟩⟩
    simp

theorem mem_findable_of_sectionIn {shelf : FileShelf} {tree : FileTree} {tag text : String}
    {path : Path} (many : shelf.arrangement = .manyPerFile)
    (found : shelf.sectionIn tree tag path = .ok (some text)) :
    tag ∈ shelf.findable tree := by
  unfold sectionIn at found
  split at found
  · simp at found
  next content read =>
    have present : Section.find tag.toList content ≠ .absent := by
      intro absent
      simp [absent] at found
    have candidate := Section.mem_candidates present
    unfold FileShelf.content at read
    split at read
    · cases read
    next data bytes =>
      obtain ⟨stamp, held⟩ := FileTree.file?_of_bytes bytes
      obtain ⟨place, -, node⟩ := FileTree.exists_node_of_file? held
      split at read
      next cs decoded =>
        simp only [Except.ok.injEq] at read
        subst read
        simp only [findable, many]
        exact List.mem_flatMap.mpr ⟨_, node, by simpa [decoded] using candidate⟩
      next => simp at read

theorem mem_findable_of_searchSections {shelf : FileShelf} {tree : FileTree} {tag : String}
    {path : Path}
    {stops : List Stop} (many : shelf.arrangement = .manyPerFile)
    (found : (shelf.searchSections tree tag stops).result = .ok path) :
    tag ∈ shelf.findable tree := by
  fun_induction searchSections shelf tree tag stops with
  | case1 => simp at found
  | case2 directory rest search ih => exact ih found
  | case3 => simp at found
  | case4 => simp at found
  | case5 path' rest text held => exact mem_findable_of_sectionIn many held
  | case6 path' rest held ih => exact ih found

theorem mem_findable {shelf : FileShelf} {tree : FileTree} {tag : String} {path : Path}
    (found : (shelf.resolve tree tag).result = .ok path) : tag ∈ shelf.findable tree := by
  unfold resolve at found
  split at found
  next one => exact mem_findable_of_searchNames one found
  next many => exact mem_findable_of_searchSections many found

end FileShelf

namespace Shelf

theorem mem_findable {shelf : Shelf} {tree : FileTree} {tag : String} {source : Source}
    (found : (shelf.resolve tree tag).result = .ok source) : tag ∈ shelf.findable tree := by
  cases shelf with
  | memory shelf =>
    simp only [resolve] at found
    split at found
    next held =>
      obtain ⟨template, held⟩ := Option.isSome_iff_exists.mp held
      exact Keyed.mem_keys_of_get? held
    next => simp at found
  | files shelf =>
    simp only [resolve] at found
    cases result : (shelf.resolve tree tag).result with
    | error e => simp [result, Functor.map, Except.map] at found
    | ok path => exact FileShelf.mem_findable result

end Shelf

end QueryBook
