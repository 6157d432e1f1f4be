import QueryBook.Proofs.Listing
import Mathlib.Data.List.Find

set_option autoImplicit false

namespace QueryBook

theorem Text.splitOn_of_not_mem {mark : Char} {cs : List Char} (absent : mark ∉ cs) :
    splitOn mark cs = [cs] := by
  induction cs with
  | nil => rfl
  | cons c cs ih =>
    obtain ⟨different, absent⟩ := not_or.mp (List.mem_cons.not.mp absent)
    rw [splitOn, if_neg (Ne.symm different), ih absent]

namespace Path

variable {name stem suffix : List Char}

theorem splitSuffix?_eq_some_iff : splitSuffix? name = some (stem, suffix) ↔
    name = stem ++ '.' :: suffix ∧ stem ≠ [] ∧ suffix ≠ [] ∧ '.' ∉ suffix := by
  constructor
  · intro split
    have whole := (List.takeWhile_append_dropWhile (p := (· ≠ '.')) (l := name.reverse)).symm
    have plain : ∀ c ∈ name.reverse.takeWhile (· ≠ '.'), c ≠ '.' := by
      intro c member
      simpa using List.mem_takeWhile_imp member
    have stop := List.head?_dropWhile_not (· ≠ '.') name.reverse
    simp only [splitSuffix?] at split
    generalize name.reverse.takeWhile (· ≠ '.') = after at split whole plain
    generalize name.reverse.dropWhile (· ≠ '.') = before at split whole stop
    cases before with
    | nil => cases split
    | cons c rest =>
      obtain rfl : c = '.' := by simpa using stop
      simp only at split
      split at split
      next => cases split
      next solid =>
        obtain ⟨front, back⟩ := not_or.mp solid
        cases split
        refine ⟨?_, by simpa using front, back, fun member => ?_⟩
        · rw [← List.reverse_inj, whole]
          simp
        · exact plain _ (List.mem_reverse.mp member) rfl
  · rintro ⟨rfl, front, back, plain⟩
    have backwards : (stem ++ '.' :: suffix).reverse = suffix.reverse ++ '.' :: stem.reverse := by
      simp
    have inside : ∀ c ∈ suffix.reverse, decide (c ≠ '.') = true := by
      intro c member
      simpa using ne_of_mem_of_not_mem (List.mem_reverse.mp member) plain
    have stop : ∀ c ∈ ('.' :: stem.reverse).head?, decide (c ≠ '.') = false := by simp
    simp only [splitSuffix?, backwards, Text.takeWhile_append_of_stop inside stop,
      Text.dropWhile_append_of_stop inside stop, List.reverse_reverse, List.reverse_eq_nil_iff,
      front, back, or_self, if_false]

end Path

namespace FileTree

-- A tree as it can be: whatever is in it is in a directory, and no name has a slash in it.
structure Proper (tree : FileTree) : Prop where
  within : ∀ path ∈ tree.nodes.keys, tree.isDirectoryAt path.dropLast = true
  named : ∀ path ∈ tree.nodes.keys, ∀ name ∈ path, '/' ∈ name.toList → name = "/" ∨ name = "//"

-- The trees have the same right below a directory, and the system lets the same be looked at there.
structure SameIn (directory : Path) (tree other : FileTree) : Prop where
  located : tree.locate directory = other.locate directory
  nodes : ∀ place, tree.locate directory = some place → ∀ name,
    tree.nodes.get? (place ++ [name]) = other.nodes.get? (place ++ [name])
  readable : ∀ place, tree.locate directory = some place → ∀ name,
    tree.readable (place ++ [name]) = other.readable (place ++ [name])
  refusal : ∀ name, tree.refusal? (directory ++ [name]) = other.refusal? (directory ++ [name])

variable {tree other : FileTree} {directory place : Path} {name : String}

theorem locate_below (down : name ≠ "..") :
    tree.locate (directory ++ [name]) = (tree.locate directory).map (· ++ [name]) := by
  rw [locate_append]
  cases tree.locate directory with
  | none => rfl
  | some place =>
    rw [Option.bind_some, List.foldlM_cons, enter, if_neg down]
    rfl

theorem exists_refusal_of_overlong {base : String} (plain : Path.isNull [base, name] = false)
    (down : base ≠ "..") (inside : tree.isDirectoryAt [base] = true)
    (long : 255 < name.utf8ByteSize) : ∃ fault, tree.refusal? [base, name] = some fault := by
  have root : tree.isDirectoryAt [] = true := rfl
  simp only [refusal?, plain, refusalFrom?, root, enter, if_neg down, List.nil_append, inside,
    if_pos long, if_true, Bool.false_eq_true, if_false]
  split
  · exact ⟨_, rfl⟩
  · split
    · exact ⟨_, rfl⟩
    · cases tree.refuses [base] <;> exact ⟨_, rfl⟩

theorem file?_of_sameIn (same : SameIn directory tree other) (down : name ≠ "..") :
    other.file? (directory ++ [name]) = tree.file? (directory ++ [name]) := by
  have node : ((other.locate (directory ++ [name])).bind other.nodes.get?) =
      (tree.locate (directory ++ [name])).bind tree.nodes.get? := by
    rw [locate_below down, locate_below down, ← same.located]
    cases located : tree.locate directory with
    | none => rfl
    | some place => exact (same.nodes place located name).symm
  simp only [file?, node, same.refusal name]

theorem isReadable_of_sameIn (same : SameIn directory tree other) (down : name ≠ "..") :
    other.isReadable (directory ++ [name]) = tree.isReadable (directory ++ [name]) := by
  rw [isReadable, isReadable, locate_below down, locate_below down, ← same.located]
  cases located : tree.locate directory with
  | none => rfl
  | some place => exact (same.readable place located name).symm

theorem offers_of_sameIn (same : SameIn directory tree other) (down : name ≠ "..") :
    other.offers (directory ++ [name]) = tree.offers (directory ++ [name]) := by
  simp only [offers, isFile, file?_of_sameIn same down, isReadable_of_sameIn same down,
    same.refusal name]

theorem bytes_of_sameIn (same : SameIn directory tree other) (down : name ≠ "..") :
    other.bytes (directory ++ [name]) = tree.bytes (directory ++ [name]) := by
  simp only [bytes, file?_of_sameIn same down, isReadable_of_sameIn same down, same.refusal name]

theorem Proper.exists_place (proper : tree.Proper) (down : name ≠ "..")
    (offered : tree.offers (directory ++ [name]) = .ok true) :
    tree.refusal? directory = none ∧
      (∃ place, tree.directory? directory = some place ∧ name ∈ tree.namesIn place) ∧
      ('/' ∈ name.toList → name = "/" ∨ name = "//") := by
  obtain ⟨data, stamp, held, -⟩ := exists_file_of_offers offered
  obtain ⟨admits, last, reached, node⟩ := file?_eq_some_iff.mp held
  rw [locate_below down] at reached
  obtain ⟨place, located, rfl⟩ := Option.map_eq_some_iff.mp reached
  have inTree := Keyed.mem_keys_of_get? node
  have directory := proper.within _ inTree
  rw [List.dropLast_concat] at directory
  exact ⟨admits.of_append.unrefused,
    ⟨place, Option.filter_eq_some_iff.mpr ⟨located, directory⟩, mem_namesIn node⟩,
    proper.named _ inTree name (by simp)⟩

end FileTree

namespace FileShelf

variable {shelf : FileShelf} {tree other : FileTree} {directory place path : Path}
  {tag name : String}

-- The extension is one, and it is the whole suffix of a name that has it.
structure HasSuffix (shelf : FileShelf) : Prop where
  nonempty : shelf.extension.toList ≠ []
  undotted : '.' ∉ shelf.extension.toList
  oneName : '/' ∉ shelf.extension.toList

theorem toList_fileName (shelf : FileShelf) (tag : String) :
    (shelf.fileName tag).toList = tag.toList ++ '.' :: shelf.extension.toList := by
  simp [fileName]

section Suffix

variable (hasSuffix : shelf.HasSuffix)
include hasSuffix

theorem HasSuffix.splitSuffix?_fileName (nonempty : tag ≠ "") :
    Path.splitSuffix? (shelf.fileName tag).toList =
      some (tag.toList, shelf.extension.toList) := by
  rw [Path.splitSuffix?_eq_some_iff]
  exact ⟨toList_fileName shelf tag, fun none => nonempty (String.toList_eq_nil_iff.mp none),
    hasSuffix.nonempty, hasSuffix.undotted⟩

-- The name of a file for a tag is never the one for the directory above.
theorem HasSuffix.fileName_ne (tag : String) : shelf.fileName tag ≠ ".." := by
  intro same
  have letters := toList_fileName shelf tag
  rw [same] at letters
  have last := congrArg List.getLast? letters
  rw [List.getLast?_append_cons, List.getLast?_cons_of_ne_nil hasSuffix.nonempty] at last
  exact hasSuffix.undotted (List.mem_of_getLast? last.symm)

theorem HasSuffix.pathTo_eq (nonempty : tag ≠ "") (oneName : '/' ∉ tag.toList) :
    shelf.pathTo tag = [shelf.fileName tag] := by
  have whole : '/' ∉ (shelf.fileName tag).toList := by
    rw [toList_fileName]
    simp [oneName, hasSuffix.oneName]
  have kept : shelf.fileName tag ≠ "" ∧ shelf.fileName tag ≠ "." := by
    constructor <;> intro same <;>
      have split := hasSuffix.splitSuffix?_fileName nonempty <;>
      rw [same] at split <;> cases split
  rw [pathTo, Path.names, Text.splitOn_of_not_mem whole]
  simp [kept]

end Suffix

theorem exists_tag_of_hasExtension (extension : shelf.hasExtension name = true) :
    ∃ tag, tag ≠ "" ∧ name = shelf.fileName tag := by
  cases split : Path.splitSuffix? name.toList with
  | none => simp [hasExtension, split] at extension
  | some parts =>
    obtain ⟨stem, suffix⟩ := parts
    obtain rfl : suffix = shelf.extension.toList := by
      simpa [hasExtension, split] using extension
    obtain ⟨whole, nonempty, -⟩ := Path.splitSuffix?_eq_some_iff.mp split
    refine ⟨String.ofList stem, by simpa using nonempty, String.toList_injective ?_⟩
    rw [toList_fileName, String.toList_ofList, whole]

theorem isHidden_fileName (nonempty : tag ≠ "") :
    Path.isHidden (shelf.fileName tag) = Path.isHidden tag := by
  have chars : tag.toList ≠ [] := fun none => nonempty (String.toList_eq_nil_iff.mp none)
  simp only [Path.isHidden, toList_fileName, List.head?_append_of_ne_nil _ chars]

structure IsNameable (tag : String) : Prop where
  nonempty : tag ≠ ""
  oneName : '/' ∉ tag.toList

def HasFile (shelf : FileShelf) (tree : FileTree) (tag : String) : Prop :=
  ∃ directory ∈ shelf.directories, tree.offers (directory ++ [shelf.fileName tag]) = .ok true

def ComesTo (shelf : FileShelf) (tree : FileTree) (tag : String) (directory : Path) : Prop :=
  ∃ front back, shelf.directories = front ++ directory :: back ∧
    ∀ earlier ∈ front, tree.offers (earlier ++ [shelf.fileName tag]) = .ok false

theorem ComesTo.mem (comes : shelf.ComesTo tree tag directory) :
    directory ∈ shelf.directories := by
  obtain ⟨front, back, split, -⟩ := comes
  simp [split]

theorem mem_walk_iff_fileName (hasSuffix : shelf.HasSuffix) (proper : tree.Proper)
    (admits : ∀ path fault, .refused path fault ∉ shelf.walk tree) :
    .file path ∈ shelf.walk tree ↔ ∃ directory ∈ shelf.directories, ∃ tag,
      path = directory ++ [shelf.fileName tag] ∧ IsNameable tag ∧ Path.isHidden tag = false ∧
      tree.offers path = .ok true := by
  rw [mem_walk_iff]
  constructor
  · rintro ⟨directory, listed, name, rfl, -, -, visible, extension, offered⟩
    obtain ⟨tag, nonempty, rfl⟩ := exists_tag_of_hasExtension extension
    have split := hasSuffix.splitSuffix?_fileName nonempty
    have oneName : '/' ∉ tag.toList := by
      intro slash
      have inName : '/' ∈ (shelf.fileName tag).toList := by
        rw [toList_fileName]
        exact List.mem_append_left _ slash
      obtain ⟨-, -, named⟩ := proper.exists_place (hasSuffix.fileName_ne tag) offered
      rcases named inName with same | same <;> rw [same] at split <;> cases split
    exact ⟨directory, listed, tag, rfl, ⟨nonempty, oneName⟩,
      (isHidden_fileName nonempty).symm.trans visible, offered⟩
  · rintro ⟨directory, listed, tag, rfl, nameable, visible, offered⟩
    have extension : shelf.hasExtension (shelf.fileName tag) = true := by
      simp only [hasExtension, hasSuffix.splitSuffix?_fileName nameable.nonempty, beq_self_eq_true]
    obtain ⟨unrefused, ⟨place, opened, here⟩, -⟩ :=
      proper.exists_place (hasSuffix.fileName_ne tag) offered
    have readable : tree.readable place = true := by
      by_contra unreadable
      refine admits directory (.denied directory) (List.mem_flatMap.mpr ⟨directory, listed, ?_⟩)
      simp only [unrefused, opened, mem_stopsIn_iff]
      exact .inr ⟨by simpa using unreadable, trivial⟩
    exact ⟨directory, listed, _, rfl, unrefused, ⟨place, opened, readable, here⟩,
      (isHidden_fileName nameable.nonempty).trans visible, extension, offered⟩

theorem resolve_of_not_nameable (one : shelf.arrangement = .onePerFile)
    (unnameable : ¬ IsNameable tag) :
    shelf.resolve tree tag = ⟨[], .error (.unknownTag tag)⟩ := by
  have unusable : tag = "" ∨ '/' ∈ tag.toList := by
    by_contra usable
    obtain ⟨nonempty, oneName⟩ := not_or.mp usable
    exact unnameable ⟨nonempty, oneName⟩
  simp only [FileShelf.resolve, one, searchNames, if_pos unusable]

theorem exists_refused_of_collectTags {stops : List Stop}
    (reads : ∀ path, .file path ∈ stops → ∃ own, shelf.tagsIn tree path = .ok own)
    (refused : ∃ path fault, .refused path fault ∈ stops) :
    ∃ path fault, .refused path fault ∈ stops ∧
      (shelf.collectTags tree stops).result = .error (.system fault) := by
  induction stops with
  | nil => simp at refused
  | cons stop stops ih =>
    have later (passes : ∀ path fault, stop ≠ .refused path fault) :=
      ih (fun path member => reads path (List.mem_cons_of_mem _ member)) (by
        obtain ⟨path, fault, member⟩ := refused
        refine ⟨path, fault, (List.mem_cons.mp member).resolve_left fun here => ?_⟩
        exact passes path fault here.symm)
    cases stop with
    | missing directory =>
      obtain ⟨path, fault, member, failed⟩ := later (by simp)
      exact ⟨path, fault, List.mem_cons_of_mem _ member, failed⟩
    | refused path fault => exact ⟨path, fault, List.mem_cons_self .., rfl⟩
    | file first =>
      obtain ⟨path, fault, member, failed⟩ := later (by simp)
      obtain ⟨own, held⟩ := reads first (List.mem_cons_self ..)
      refine ⟨path, fault, List.mem_cons_of_mem _ member, ?_⟩
      simp only [collectTags, held, failed]
      rfl

theorem firstOffered_congr {absent : Error} {paths : List Path}
    (same : ∀ path ∈ paths, other.offers path = tree.offers path) :
    firstOffered other absent paths = firstOffered tree absent paths := by
  induction paths with
  | nil => rfl
  | cons path rest ih =>
    obtain ⟨here, later⟩ := List.forall_mem_cons.mp same
    simp only [firstOffered, here, ih later]

def Decodable (shelf : FileShelf) (tree : FileTree) : Prop :=
  ∀ place data stamp, (place, .file data stamp) ∈ tree.nodes →
    ∃ content, shelf.encoding.decode data = .ok content

theorem exists_content_of_offers (decodable : shelf.Decodable tree)
    (offered : tree.offers path = .ok true) : ∃ content, shelf.content tree path = .ok content := by
  obtain ⟨data, stamp, held, read⟩ := FileTree.exists_file_of_offers offered
  obtain ⟨place, -, node⟩ := FileTree.exists_node_of_file? held
  obtain ⟨content, decoded⟩ := decodable place data stamp node
  exact ⟨content, by simp only [FileShelf.content, read, decoded]⟩

section Names

variable (one : shelf.arrangement = .onePerFile) (hasSuffix : shelf.HasSuffix)
include one hasSuffix

-- What is listed: the tags that have files, but for hidden ones. Where the walk is refused
-- something, that is what becomes of the listing.
theorem exists_toc_of_proper (proper : tree.Proper) :
    (∃ names, (Shelf.toc (.files shelf) tree).result = .ok names ∧ names.Pairwise (· < ·) ∧
      ∀ tag, tag ∈ names ↔
        IsNameable tag ∧ Path.isHidden tag = false ∧ shelf.HasFile tree tag) ∨
      ∃ path fault, .refused path fault ∈ shelf.walk tree ∧
        (Shelf.toc (.files shelf) tree).result = .error (.system fault) := by
  have reads (path : Path) (_ : .file path ∈ shelf.walk tree) :
      ∃ own, shelf.tagsIn tree path = .ok own := by simp [FileShelf.tagsIn, one]
  by_cases refused : ∃ path fault, .refused path fault ∈ shelf.walk tree
  · obtain ⟨path, fault, member, failed⟩ := exists_refused_of_collectTags reads refused
    exact .inr ⟨path, fault, member, by simp only [Shelf.toc, failed]; rfl⟩
  have admits (path : Path) (fault : SystemFault) : .refused path fault ∉ shelf.walk tree :=
    fun member => refused ⟨path, fault, member⟩
  have walked {path : Path} : .file path ∈ shelf.walk tree ↔ _ :=
    mem_walk_iff_fileName hasSuffix proper admits
  have tagsIn (directory : Path) {tag : String} (nameable : IsNameable tag) :
      shelf.tagsIn tree (directory ++ [shelf.fileName tag]) = .ok [tag] := by
    simp [FileShelf.tagsIn, one, hasSuffix.splitSuffix?_fileName nameable.nonempty]
  obtain ⟨tags, collected⟩ := exists_collectTags admits reads
  refine .inl ⟨sortedNames tags, by simp only [Shelf.toc, collected]; rfl,
    pairwise_lt_sortedNames tags, fun tag => ?_⟩
  rw [mem_sortedNames, (collectTags_eq_ok collected).2.2]
  constructor
  · rintro ⟨path, own, member, held, within⟩
    obtain ⟨directory, listed, tag', rfl, nameable, visible, offered⟩ := walked.mp member
    obtain rfl := Except.ok.inj ((tagsIn directory nameable).symm.trans held)
    obtain rfl := List.mem_singleton.mp within
    exact ⟨nameable, visible, directory, listed, offered⟩
  · rintro ⟨nameable, visible, directory, listed, offered⟩
    exact ⟨_, _, walked.mpr ⟨directory, listed, tag, rfl, nameable, visible, offered⟩,
      tagsIn directory nameable, List.mem_singleton.mpr rfl⟩

theorem resolve_of_nameable (nameable : IsNameable tag) :
    shelf.resolve tree tag =
      ⟨[], firstOffered tree (.noFile tag shelf.extension)
        (shelf.directories.map (· ++ [shelf.fileName tag]))⟩ := by
  have usable : ¬ (tag = "" ∨ '/' ∈ tag.toList) := not_or.mpr ⟨nameable.nonempty, nameable.oneName⟩
  simp only [FileShelf.resolve, one, searchNames, if_neg usable,
    hasSuffix.pathTo_eq nameable.nonempty nameable.oneName]

theorem resolve_first (nameable : IsNameable tag) :
    (∃ directory, shelf.ComesTo tree tag directory ∧
      (tree.offers (directory ++ [shelf.fileName tag]) = .ok true ∧
          (shelf.resolve tree tag).result = .ok (directory ++ [shelf.fileName tag]) ∨
        ∃ fault, tree.offers (directory ++ [shelf.fileName tag]) = .error fault ∧
          (shelf.resolve tree tag).result = .error (.system fault))) ∨
      ¬ shelf.HasFile tree tag ∧
        (shelf.resolve tree tag).result = .error (.noFile tag shelf.extension) := by
  rw [resolve_of_nameable one hasSuffix nameable]
  rcases firstOffered_cases tree (.noFile tag shelf.extension)
      (shelf.directories.map (· ++ [shelf.fileName tag])) with
    ⟨front, path, back, split, lacks, ends⟩ | ⟨lacks, missing⟩
  · obtain ⟨before, rest, whole, rfl, later⟩ := List.map_eq_append_iff.mp split
    obtain ⟨directory, after, rfl, rfl, rfl⟩ := List.map_eq_cons_iff.mp later
    exact .inl ⟨directory, ⟨before, after, whole, by simpa using lacks⟩, ends⟩
  · refine .inr ⟨?_, missing⟩
    rintro ⟨directory, listed, offered⟩
    have lacks := lacks _ (List.mem_map_of_mem listed)
    cases offered.symm.trans lacks

theorem resolve_of_sameIn (same : ∀ directory ∈ shelf.directories, tree.SameIn directory other)
    (tag : String) : shelf.resolve other tag = shelf.resolve tree tag := by
  by_cases nameable : IsNameable tag
  · rw [resolve_of_nameable one hasSuffix nameable, resolve_of_nameable one hasSuffix nameable]
    rw [firstOffered_congr]
    intro path member
    obtain ⟨directory, listed, rfl⟩ := List.mem_map.mp member
    exact FileTree.offers_of_sameIn (same directory listed) (hasSuffix.fileName_ne tag)
  · rw [resolve_of_not_nameable one nameable, resolve_of_not_nameable one nameable]

theorem exists_directory_of_resolve (found : (shelf.resolve tree tag).result = .ok path) :
    ∃ directory ∈ shelf.directories, path = directory ++ [shelf.fileName tag] := by
  by_cases nameable : IsNameable tag
  · rcases resolve_first one hasSuffix nameable with
      ⟨directory, comes, ⟨-, found'⟩ | ⟨fault, -, refused⟩⟩ | ⟨-, missing⟩
    · exact ⟨directory, comes.mem, Except.ok.inj (found.symm.trans found')⟩
    · cases found.symm.trans refused
    · cases found.symm.trans missing
  · rw [resolve_of_not_nameable one nameable] at found
    cases found

end Names

end FileShelf

namespace Catalog

variable {library later : Library} {shelf : FileShelf} {tag : String}

theorem conclude_bind_congr {α β : Type} {search : Search α} {next next' : α → Action Catalog β}
    (same : ∀ a, search.result = .ok a → next a = next' a) :
    conclude search >>= next = conclude search >>= next' := by
  simp only [conclude, bind_assoc]
  refine bind_congr fun _ => ?_
  cases result : search.result with
  | ok a => simp only [Action.ofExcept, pure_bind, same a result]
  | error e => rfl

theorem find_congr (resolved : later.shelf.resolve later.tree tag =
      library.shelf.resolve library.tree tag)
    (held : ∀ source, (library.shelf.resolve library.tree tag).result = .ok source →
      later.shelf.read later.tree tag source = library.shelf.read library.tree tag source ∧
        later.fingerprint source = library.fingerprint source) :
    find later tag = find library tag := by
  simp only [find, resolve, resolved]
  refine bind_congr fun _ => conclude_bind_congr fun source found => ?_
  rw [(held source found).1, (held source found).2]

theorem find_of_sameIn (one : shelf.arrangement = .onePerFile) (hasSuffix : shelf.HasSuffix)
    {tree other : FileTree} (same : ∀ directory ∈ shelf.directories, tree.SameIn directory other)
    (tag : String) : find ⟨.files shelf, other⟩ tag = find ⟨.files shelf, tree⟩ tag := by
  have resolved := FileShelf.resolve_of_sameIn one hasSuffix same tag
  apply find_congr
  · simp only [Shelf.resolve, resolved]
  · intro source found
    obtain ⟨path, rfl, located⟩ :=
      @Library.exists_path_of_resolve ⟨.files shelf, tree⟩ shelf tag source rfl found
    obtain ⟨directory, listed, rfl⟩ :=
      FileShelf.exists_directory_of_resolve one hasSuffix located
    have down := hasSuffix.fileName_ne tag
    refine ⟨FileShelf.read_of_bytes (FileTree.bytes_of_sameIn (same directory listed) down), ?_⟩
    simp only [Library.fingerprint, Shelf.fingerprint,
      FileTree.file?_of_sameIn (same directory listed) down]

inductive Sought (library : Library) (shelf : FileShelf) (tag : String) (catalog : Catalog) :
    Prop where
  | found {directory : Path} {content : List Char} {after : Catalog}
    (nameable : FileShelf.IsNameable tag) (comes : shelf.ComesTo library.tree tag directory)
    (offered : library.tree.offers (directory ++ [shelf.fileName tag]) = .ok true)
    (read : shelf.content library.tree (directory ++ [shelf.fileName tag]) = .ok content)
    (found : find library tag catalog = .ok (String.ofList content) after)
  | refused {directory : Path} {fault : SystemFault} {after : Catalog}
    (nameable : FileShelf.IsNameable tag) (comes : shelf.ComesTo library.tree tag directory)
    (refused : library.tree.offers (directory ++ [shelf.fileName tag]) = .error fault)
    (failed : find library tag catalog = .error (.system fault) after)
  | missed (misses : Misses library tag catalog)
    (lacks : ¬ (FileShelf.IsNameable tag ∧ shelf.HasFile library.tree tag))

section Sought

variable (files : library.shelf = .files shelf) (one : shelf.arrangement = .onePerFile)
  (hasSuffix : shelf.HasSuffix)
include files one hasSuffix

theorem sought (decodable : shelf.Decodable library.tree) (tag : String) (catalog : Catalog) :
    Sought library shelf tag catalog := by
  by_cases nameable : FileShelf.IsNameable tag
  · rcases FileShelf.resolve_first one hasSuffix nameable with
      ⟨directory, comes, ⟨offered, located⟩ | ⟨fault, refused, failed⟩⟩ | ⟨noFile, failed⟩
    · obtain ⟨content, read⟩ := FileShelf.exists_content_of_offers decodable offered
      have found : library.template tag = .ok (String.ofList content) := by
        rw [Library.template_of_files files located]
        simp only [FileShelf.read, one, read]
        rfl
      obtain ⟨after, found⟩ : ∃ after, find library tag catalog = .ok _ after :=
        exists_find_of_template found
      exact .found nameable comes offered read found
    · have missing := Library.template_of_unresolved files failed
      obtain ⟨after, failed⟩ : ∃ after, find library tag catalog = .error _ after :=
        exists_find_of_missing missing
      exact .refused nameable comes refused failed
    · have missing := Library.template_of_unresolved files failed
      exact .missed ((misses_iff catalog).mpr ⟨_, missing, rfl⟩) fun both => noFile both.2
  · have failed : (shelf.resolve library.tree tag).result = .error (.unknownTag tag) := by
      rw [FileShelf.resolve_of_not_nameable one nameable]
    have missing := Library.template_of_unresolved files failed
    exact .missed ((misses_iff catalog).mpr ⟨_, missing, rfl⟩) fun both => nameable both.1

theorem misses_iff_of_unrefused (decodable : shelf.Decodable library.tree) (catalog : Catalog)
    (unrefused : ∀ directory fault, shelf.ComesTo library.tree tag directory →
      library.tree.offers (directory ++ [shelf.fileName tag]) ≠ .error fault) :
    Misses library tag catalog ↔
      ¬ (FileShelf.IsNameable tag ∧ shelf.HasFile library.tree tag) := by
  cases sought files one hasSuffix decodable tag catalog with
  | found nameable comes offered read found =>
    refine iff_of_false ?_ (not_not.mpr ⟨nameable, _, comes.mem, offered⟩)
    rintro ⟨e, after, missed, -⟩
    cases found.symm.trans missed
  | refused nameable comes refused failed => exact absurd refused (unrefused _ _ comes)
  | missed misses lacks => exact iff_of_true misses lacks

/-- Of files with one template each, the tags that are found are those that are listed, but for tags
that begin with a dot and for what the system refuses to look at. A tag is found in the first
directory that has a file for it that may be read, and whatever the tag is, what is found depends on
nothing but what is right below the directories of the shelf. -/
theorem find_iff_listed (proper : library.tree.Proper) (decodable : shelf.Decodable library.tree)
    (catalog : Catalog) :
    ((∃ names, (∃ after, toc library catalog = .ok names after) ∧ names.Pairwise (· < ·) ∧
        ∀ tag, Path.isHidden tag = false →
          (tag ∈ names ↔ FileShelf.IsNameable tag ∧ shelf.HasFile library.tree tag) ∧
          ((∀ directory fault, shelf.ComesTo library.tree tag directory →
              library.tree.offers (directory ++ [shelf.fileName tag]) ≠ .error fault) →
            (Misses library tag catalog ↔ tag ∉ names))) ∨
      ∃ path fault, .refused path fault ∈ shelf.walk library.tree ∧
        ∃ after, toc library catalog = .error (.system fault) after) ∧
      (∀ tag, Sought library shelf tag catalog) ∧
      ∀ tag other, (∀ directory ∈ shelf.directories, library.tree.SameIn directory other) →
        find { library with tree := other } tag catalog = find library tag catalog := by
  refine ⟨?_, fun tag => sought files one hasSuffix decodable tag catalog, ?_⟩
  · rcases FileShelf.exists_toc_of_proper one hasSuffix proper with
      ⟨names, listed, sorted, mem_names⟩ | ⟨path, fault, met, failed⟩
    · refine .inl ⟨names, exists_toc (files ▸ listed), sorted, fun tag visible => ?_⟩
      have mem_names_iff : tag ∈ names ↔
          FileShelf.IsNameable tag ∧ shelf.HasFile library.tree tag := by
        rw [mem_names]
        simp only [visible, true_and]
      refine ⟨mem_names_iff, fun unrefused => ?_⟩
      rw [mem_names_iff]
      exact misses_iff_of_unrefused files one hasSuffix decodable catalog unrefused
    · exact .inr ⟨path, fault, met, exists_toc_of_refused (files ▸ failed)⟩
  · intro tag other same
    rcases library with ⟨_, tree⟩
    cases files
    exact congrFun (find_of_sameIn one hasSuffix same tag) catalog

end Sought

end Catalog

-- Two directories, one of them listed twice, beside one that is missing. One file may not be read.
def FileShelf.layers : FileShelf :=
  .ofParts .onePerFile ["a", "gone", "b", "a"] "sql" .utf8

def FileTree.layers : FileTree where
  nodes := [(["a"], .directory), (["a", "x.sql"], .file [65] 1), (["a", "u.sql"], .file [66] 1),
    (["a", "d.sql"], .directory), (["b"], .directory), (["b", "x.sql"], .file [67] 2),
    (["b", "u.sql"], .file [68] 2), (["b", "y.z.sql"], .file [69] 2)]
  readable := fun place => place ≠ ["a", "u.sql"]
  refuses := fun _ => none

def Library.layers : Library where
  shelf := .files .layers
  tree := .layers

theorem FileShelf.hasSuffix_layers : layers.HasSuffix where
  nonempty := by decide
  undotted := by decide
  oneName := by decide

theorem FileTree.proper_layers : layers.Proper where
  within := by decide
  named := by decide

theorem FileShelf.decodable_layers : FileShelf.layers.Decodable .layers := by
  intro place data stamp member
  simp only [FileTree.layers, List.mem_cons, Prod.mk.injEq, Node.file.injEq, reduceCtorEq,
    and_false, false_or, List.not_mem_nil, or_false] at member
  rcases member with ⟨-, rfl, -⟩ | ⟨-, rfl, -⟩ | ⟨-, rfl, -⟩ | ⟨-, rfl, -⟩ | ⟨-, rfl, -⟩
  all_goals exact ⟨_, rfl⟩

theorem FileShelf.not_refused {shelf : FileShelf} {tree : FileTree}
    (admits : ∀ directory ∈ shelf.directories, tree.refusal? directory = none ∧
      ∀ place ∈ tree.directory? directory, tree.readable place = true ∧
        ∀ name ∈ tree.namesIn place, (tree.offers (directory ++ [name])).isOk = true)
    (path : Path) (fault : SystemFault) : .refused path fault ∉ shelf.walk tree := by
  intro met
  obtain ⟨directory, listed, met⟩ := List.mem_flatMap.mp met
  obtain ⟨unrefused, inside⟩ := admits directory listed
  simp only [unrefused] at met
  cases opened : tree.directory? directory with
  | none => simp [opened] at met
  | some place =>
    obtain ⟨readable, looked⟩ := inside place opened
    simp only [opened, mem_stopsIn_iff, readable, stop?_eq_some_iff] at met
    simp only [reduceCtorEq, false_and, Stop.refused.injEq, false_or, or_false, true_and] at met
    obtain ⟨name, here, -, -, fault', -, refused⟩ := met
    have := looked name here
    rw [refused] at this
    cases this

theorem FileShelf.not_refused_layers (path : Path) (fault : SystemFault) :
    .refused path fault ∉ layers.walk .layers :=
  not_refused (by decide) path fault

namespace Catalog

theorem find_iff_listed_layers :
    Library.layers.shelf = .files .layers ∧ FileShelf.layers.arrangement = .onePerFile ∧
    FileShelf.layers.HasSuffix ∧ FileTree.layers.Proper ∧
    FileShelf.layers.Decodable .layers ∧
    ∃ names, (∃ after, toc .layers ⟨[], []⟩ = .ok names after) ∧ names.Pairwise (· < ·) ∧
      "x" ∈ names ∧ "u" ∈ names ∧ "y.z" ∈ names ∧ "d" ∉ names ∧ "" ∉ names := by
  obtain ⟨listed, -⟩ := @find_iff_listed .layers .layers rfl rfl FileShelf.hasSuffix_layers
    FileTree.proper_layers FileShelf.decodable_layers ⟨[], []⟩
  refine ⟨rfl, rfl, FileShelf.hasSuffix_layers, FileTree.proper_layers,
    FileShelf.decodable_layers, ?_⟩
  rcases listed with ⟨names, listed, sorted, answers⟩ | ⟨path, fault, met, -⟩
  · have lists {tag : String} (visible : Path.isHidden tag = false)
        (nonempty : tag ≠ "") (oneName : '/' ∉ tag.toList) (directory : Path)
        (member : directory ∈ FileShelf.layers.directories)
        (offered : FileTree.layers.offers (directory ++ [FileShelf.layers.fileName tag]) =
          .ok true) : tag ∈ names :=
      (answers tag visible).1.mpr ⟨⟨nonempty, oneName⟩, directory, member, offered⟩
    refine ⟨names, listed, sorted, ?_, ?_, ?_, ?_, ?_⟩
    · exact lists (by decide) (by decide) (by decide) ["a"] (by decide) (by decide)
    · exact lists (by decide) (by decide) (by decide) ["b"] (by decide) (by decide)
    · exact lists (by decide) (by decide) (by decide) ["b"] (by decide) (by decide)
    · intro member
      obtain ⟨-, directory, member, offered⟩ := (answers "d" (by decide)).1.mp member
      revert directory
      decide
    · intro member
      exact ((answers "" (by decide)).1.mp member).1.nonempty rfl
  · exact absurd met (FileShelf.not_refused_layers path fault)

-- A tag that gives a file a longer name than there can be.
def overlong : String :=
  String.ofList (List.replicate 300 'x')

theorem toList_overlong : overlong.toList = List.replicate 300 'x' :=
  String.toList_ofList

theorem isNameable_overlong : FileShelf.IsNameable overlong where
  nonempty := fun none => by
    have letters := toList_overlong
    rw [none] at letters
    cases letters
  oneName := by rw [toList_overlong]; decide

theorem utf8ByteSize_letters (n : Nat) :
    (String.ofList (List.replicate n 'x')).utf8ByteSize = n := by
  induction n with
  | zero => rfl
  | succ n ih =>
    rw [List.replicate_succ', String.ofList_append, String.utf8ByteSize_append, ih]
    rfl

theorem utf8ByteSize_overlong : 255 < (FileShelf.layers.fileName overlong).utf8ByteSize := by
  have letters : overlong.utf8ByteSize = 300 := utf8ByteSize_letters 300
  rw [FileShelf.fileName, String.utf8ByteSize_append, String.utf8ByteSize_append, letters]
  decide

theorem refused_overlong :
    ∃ fault, FileTree.layers.refusal? ["a", FileShelf.layers.fileName overlong] = some fault := by
  refine FileTree.exists_refusal_of_overlong ?_ (by decide) (by decide) utf8ByteSize_overlong
  simp only [Path.isNull, List.any_cons, FileShelf.toList_fileName, toList_overlong]
  decide +kernel

theorem template_of_refused {tag : String} {fault : SystemFault}
    (nameable : FileShelf.IsNameable tag)
    (refused : FileTree.layers.refusal? ["a", FileShelf.layers.fileName tag] = some fault) :
    Library.layers.template tag = .error (.system fault) := by
  have offered : FileTree.layers.offers ["a", FileShelf.layers.fileName tag] = .error fault := by
    simp only [FileTree.offers, FileTree.isFile, refused]
  have directories : FileShelf.layers.directories = [["a"], ["gone"], ["b"], ["a"]] := by decide
  refine Library.template_of_unresolved rfl ?_
  rw [FileShelf.resolve_of_nameable rfl FileShelf.hasSuffix_layers nameable]
  simp only [directories, List.map_cons, List.cons_append, List.nil_append,
    FileShelf.firstOffered, show Library.layers.tree = .layers from rfl, offered]

theorem template_overlong : ∃ fault, Library.layers.template overlong = .error (.system fault) := by
  obtain ⟨fault, refused⟩ := refused_overlong
  exact ⟨fault, template_of_refused isNameable_overlong refused⟩

theorem offers_overlong (directory : Path) :
    FileTree.layers.offers (directory ++ [FileShelf.layers.fileName overlong]) ≠ .ok true := by
  intro offered
  obtain ⟨data, stamp, held, -⟩ := FileTree.exists_file_of_offers offered
  obtain ⟨-, last, reached, node⟩ := FileTree.file?_eq_some_iff.mp held
  rw [FileTree.locate_below (FileShelf.hasSuffix_layers.fileName_ne overlong)] at reached
  obtain ⟨place, -, rfl⟩ := Option.map_eq_some_iff.mp reached
  have short : ∀ path ∈ FileTree.layers.nodes.keys, ∀ name ∈ path, name.utf8ByteSize ≤ 255 := by
    decide
  have := short _ (Keyed.mem_keys_of_get? node) (FileShelf.layers.fileName overlong) (by simp)
  exact absurd utf8ByteSize_overlong (Nat.not_lt.mpr this)

theorem exists_passed_over :
    (FileTree.layers.file? ["a", "u.sql"]).isSome = true ∧
    (∃ after, find .layers "u" ⟨[], []⟩ = .ok "D" after) ∧
    ¬ Misses .layers overlong ⟨[], []⟩ ∧
    ∃ names, (∃ after, toc .layers ⟨[], []⟩ = .ok names after) ∧ overlong ∉ names := by
  refine ⟨by decide, exists_find_of_template (by decide), ?_, ?_⟩
  · obtain ⟨fault, refused⟩ := template_overlong
    rw [misses_iff, refused]
    rintro ⟨e, missing, kind⟩
    cases missing
    cases kind
  · rcases FileShelf.exists_toc_of_proper rfl FileShelf.hasSuffix_layers
      FileTree.proper_layers with ⟨names, listed, -, mem_names⟩ | ⟨path, fault, met, -⟩
    · refine ⟨names, exists_toc listed, fun member => ?_⟩
      obtain ⟨-, -, directory, member, offered⟩ := (mem_names overlong).mp member
      exact offers_overlong directory offered
    · exact absurd met (FileShelf.not_refused_layers path fault)

end Catalog

end QueryBook
