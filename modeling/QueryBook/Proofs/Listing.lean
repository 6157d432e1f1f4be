import QueryBook.Proofs.Books
import QueryBook.Proofs.Terminators

set_option autoImplicit false

namespace QueryBook

namespace Section

variable {tag content : List Char} {name : String}

def HasHeader (tag content : List Char) : Prop :=
  ∃ line ∈ lines content, tag ++ [':'] <+: line

theorem afterHeader?_eq_none_iff : afterHeader? tag content = none ↔ ¬ HasHeader tag content := by
  simp only [afterHeader?, List.findSome?_eq_none_iff, HasHeader, not_exists, not_and]
  refine forall₂_congr fun line _ => ?_
  constructor
  · rintro quiet ⟨rest, rfl⟩
    rw [Text.after?_append] at quiet
    cases quiet
  · intro quiet
    cases found : Text.after? (tag ++ [':']) line with
    | none => rfl
    | some rest => exact absurd ⟨rest, (Text.eq_of_after? found).symm⟩ quiet

theorem mem_listedTags_iff :
    name ∈ listedTags content ↔ IsTag name.toList ∧ HasHeader name.toList content := by
  simp only [listedTags, List.mem_filterMap, HasHeader]
  constructor
  · rintro ⟨line, member, listed⟩
    obtain ⟨isTag, rest, rfl⟩ := exists_of_listedTag? listed
    exact ⟨isTag, _, member, rest, by simp⟩
  · rintro ⟨isTag, line, member, rest, rfl⟩
    refine ⟨_, member, ?_⟩
    rw [List.append_assoc, List.singleton_append, listedTag?_header isTag]

end Section

namespace FileShelf

variable {shelf : FileShelf} {tree : FileTree} {tag : String} {path : Path} {content : List Char}
  {stops : List Stop}

structure Readable (shelf : FileShelf) (tree : FileTree) : Prop where
  admits : ∀ path fault, .refused path fault ∉ shelf.walk tree
  decodes : ∀ path, .file path ∈ shelf.walk tree → ∃ content, shelf.content tree path = .ok content

def HasHeader (shelf : FileShelf) (tree : FileTree) (tag : String) : Prop :=
  ∃ path content, .file path ∈ shelf.walk tree ∧ shelf.content tree path = .ok content ∧
    Section.HasHeader tag.toList content

theorem exists_collectTags (admits : ∀ path fault, .refused path fault ∉ stops)
    (reads : ∀ path, .file path ∈ stops → ∃ own, shelf.tagsIn tree path = .ok own) :
    ∃ tags, (shelf.collectTags tree stops).result = .ok tags := by
  induction stops with
  | nil => exact ⟨[], rfl⟩
  | cons stop stops ih =>
    obtain ⟨tags, later⟩ := ih
      (fun path fault member => admits path fault (List.mem_cons_of_mem _ member))
      fun path member => reads path (List.mem_cons_of_mem _ member)
    cases stop with
    | missing directory => exact ⟨tags, later⟩
    | refused path fault => exact absurd (List.mem_cons_self ..) (admits path fault)
    | file first =>
      obtain ⟨own, held⟩ := reads first (List.mem_cons_self ..)
      refine ⟨own ++ tags, ?_⟩
      simp only [collectTags, held, later]
      rfl

section Many

variable (many : shelf.arrangement = .manyPerFile) (readable : shelf.Readable tree)
include many readable

theorem exists_toc_of_readable :
    ∃ names, (Shelf.toc (.files shelf) tree).result = .ok names ∧
      ∀ name, name ∈ names ↔ Section.IsTag name.toList ∧ shelf.HasHeader tree name := by
  have tagsIn {path : Path} {content : List Char} (read : shelf.content tree path = .ok content) :
      shelf.tagsIn tree path = .ok (Section.listedTags content) := by
    simp only [FileShelf.tagsIn, many, read]
    rfl
  have reads (path : Path) (member : .file path ∈ shelf.walk tree) :
      ∃ own, shelf.tagsIn tree path = .ok own := by
    obtain ⟨content, read⟩ := readable.decodes path member
    exact ⟨_, tagsIn read⟩
  obtain ⟨tags, collected⟩ := exists_collectTags readable.admits reads
  refine ⟨sortedNames tags, by simp only [Shelf.toc, collected]; rfl, fun name => ?_⟩
  rw [mem_sortedNames, (collectTags_eq_ok collected).2.2]
  constructor
  · rintro ⟨path, own, member, held, within⟩
    obtain ⟨content, read⟩ := readable.decodes path member
    obtain rfl := Except.ok.inj ((tagsIn read).symm.trans held)
    obtain ⟨isTag, header⟩ := Section.mem_listedTags_iff.mp within
    exact ⟨isTag, path, content, member, read, header⟩
  · rintro ⟨isTag, path, content, member, read, header⟩
    exact ⟨path, _, member, tagsIn read, Section.mem_listedTags_iff.mpr ⟨isTag, header⟩⟩

-- The first file with a header of the tag ends the search, whether or not its section has an end.
theorem searchSections_of_readable (tag : String) :
    ((∃ path text, (shelf.resolve tree tag).result = .ok path ∧
        shelf.sectionIn tree tag path = .ok (some text)) ∨
      ∃ file, (shelf.resolve tree tag).result = .error (.unterminated tag file)) ∧
        shelf.HasHeader tree tag ∨
      (shelf.resolve tree tag).result = .error (.unknownTag tag) ∧ ¬ shelf.HasHeader tree tag := by
  have present {path : Path} {content rest : List Char} (member : .file path ∈ shelf.walk tree)
      (read : shelf.content tree path = .ok content)
      (header : Section.afterHeader? tag.toList content = some rest) :
      shelf.HasHeader tree tag := by
    refine ⟨path, content, member, read, ?_⟩
    rw [← not_not (a := Section.HasHeader ..), ← Section.afterHeader?_eq_none_iff, header]
    simp
  have search : shelf.resolve tree tag = shelf.searchSections tree tag (shelf.walk tree) := by
    simp only [FileShelf.resolve, many]
  rw [search]
  cases searched : (shelf.searchSections tree tag (shelf.walk tree)).result with
  | ok path =>
    obtain ⟨text, held⟩ := exists_of_searchSections searched
    obtain ⟨content, read, found⟩ := sectionIn_eq_ok_some held
    obtain ⟨rest, -, -, header, -⟩ := Section.exists_of_find_eq_template found
    exact .inl ⟨.inl ⟨path, text, rfl, held⟩, present (mem_of_searchSections searched) read header⟩
  | error e =>
    cases searchSections_failed searched with
    | absent lacks _ =>
      refine .inr ⟨rfl, ?_⟩
      rintro ⟨path, content, member, read, header⟩
      exact Section.afterHeader?_eq_none_iff.mp
        (sectionIn_eq_ok_none (lacks path member) read) header
    | @broken path _ member broken =>
      obtain ⟨content, read⟩ := readable.decodes path member
      obtain ⟨rfl, rest, header, -⟩ := sectionIn_eq_error broken read
      exact .inl ⟨.inr ⟨path.text, rfl⟩, present member read header⟩
    | @refused path fault member => exact absurd member (readable.admits path fault)

end Many

end FileShelf

namespace Catalog

variable {library : Library} {shelf : FileShelf} {tag : String}

def Misses (library : Library) (tag : String) (catalog : Catalog) : Prop :=
  ∃ e after, find library tag catalog = .error e after ∧ e.kind = .unknownTag

theorem misses_iff (catalog : Catalog) :
    Misses library tag catalog ↔
      ∃ e, library.template tag = .error e ∧ e.kind = .unknownTag := by
  constructor
  · rintro ⟨e, after, missed, kind⟩
    have ends : Action.Ends (find library tag) catalog (fun _ _ => True)
        (fun e _ => library.template tag = .error e) :=
      ends_find (fun _ _ _ _ _ => trivial) fun _ _ missing => missing
    exact ⟨e, ends.of_error missed, kind⟩
  · rintro ⟨e, missing, kind⟩
    obtain ⟨after, missed⟩ := @exists_find_of_missing library tag catalog e missing
    exact ⟨e, after, missed, kind⟩

theorem misses_iff_of_readable (files : library.shelf = .files shelf)
    (many : shelf.arrangement = .manyPerFile) (readable : shelf.Readable library.tree)
    (catalog : Catalog) : Misses library tag catalog ↔ ¬ shelf.HasHeader library.tree tag := by
  rw [misses_iff]
  rcases FileShelf.searchSections_of_readable many readable tag with
    ⟨⟨path, text, located, held⟩ | ⟨file, failed⟩, header⟩ | ⟨failed, quiet⟩
  · have found : library.template tag = .ok text := by
      rw [Library.template_of_files files located]
      simp only [FileShelf.read, many, held]
    simp [found, header]
  · have broken := Library.template_of_unresolved files failed
    refine iff_of_false ?_ (not_not.mpr header)
    rintro ⟨e, same, kind⟩
    cases broken.symm.trans same
    cases kind
  · exact iff_of_true ⟨_, Library.template_of_unresolved files failed, rfl⟩ quiet

end Catalog

namespace Book

variable {σ : Type} {book : Book σ} {shelf : FileShelf}

theorem ends_toc {names : List String} (connected : book.connected = true)
    (listed : (book.library.shelf.toc book.library.tree).result = .ok names) :
    Action.Ends toc book (fun answer _ => answer = names) (fun _ _ => False) := by
  obtain ⟨after, answered⟩ := @Catalog.exists_toc book.library book.toCatalog names listed
  simp only [toc, Action.ends_bind, ends_ensureConnected, connected, if_true, ends_library?,
    ends_onCatalog, Action.ends_of_ok answered]

theorem exists_hasTag {names : List String} (connected : book.connected = true)
    (listed : (book.library.shelf.toc book.library.tree).result = .ok names) (tag : String) :
    ∃ after, hasTag tag book = .ok (decide (tag ∈ names)) after := by
  apply Action.Ends.exists_ok
  simp only [hasTag, Action.ends_bind, Action.ends_pure]
  refine (ends_toc connected listed).imp (fun answer _ same => ?_) fun _ _ no => no
  rw [same, List.contains_eq_mem]

/-- Of files with many templates that can all be decoded, exactly the words that are not missed are
listed, and a tag is missed exactly when no file has a header of it. So a tag that is no word is
found where a file has a header of it, and yet it is not listed. -/
theorem listed_iff_found (connected : book.connected = true)
    (files : book.library.shelf = .files shelf) (many : shelf.arrangement = .manyPerFile)
    (readable : shelf.Readable book.library.tree) :
    ∃ names, (∃ after, toc book = .ok names after) ∧
      ∀ tag, (∃ after, hasTag tag book = .ok (decide (tag ∈ names)) after) ∧
        ∀ catalog,
          (tag ∈ names ↔
            Section.IsTag tag.toList ∧ ¬ Catalog.Misses book.library tag catalog) ∧
          (Catalog.Misses book.library tag catalog ↔
            ¬ shelf.HasHeader book.library.tree tag) := by
  obtain ⟨names, listed, mem_names⟩ := FileShelf.exists_toc_of_readable many readable
  rw [← files] at listed
  refine ⟨names, (ends_toc connected listed).exists_ok, fun tag =>
    ⟨exists_hasTag connected listed tag, fun catalog => ?_⟩⟩
  have misses := @Catalog.misses_iff_of_readable _ _ tag files many readable catalog
  rw [misses, not_not]
  exact ⟨mem_names tag, Iff.rfl⟩

end Book

-- Of two tags only the second one is a word.
def Section.hyphenated : List Char :=
  "a-b:\nDELETE FROM x\n;;\nb:\nDELETE FROM y\n;;\n".toList

def Book.hyphenated : Book Unit where
  cache := []
  journal := []
  conn := ()
  library :=
    { shelf := .files .ofSections
      tree := FileTree.empty.write ["lib", "bugs.msql"]
        (Section.hyphenated.flatMap String.utf8EncodeChar) 1 }
  connected := true
  autocommit := true

namespace FileShelf

theorem readable_hyphenated : ofSections.Readable Book.hyphenated.library.tree := by
  have walk : ofSections.walk Book.hyphenated.library.tree = _ := walk_written _ 1
  refine ⟨fun path fault => by simp [walk], fun path member => ?_⟩
  obtain rfl : path = ["lib", "bugs.msql"] := by simpa [walk] using member
  exact ⟨_, content_written (by decide) 1⟩

theorem hasHeader_hyphenated {tag : String}
    (header : (Section.lines Section.hyphenated).any (tag.toList ++ [':']).isPrefixOf = true) :
    ofSections.HasHeader Book.hyphenated.library.tree tag := by
  have walk : ofSections.walk Book.hyphenated.library.tree = _ := walk_written _ 1
  obtain ⟨line, member, start⟩ := List.any_eq_true.mp header
  exact ⟨["lib", "bugs.msql"], Section.hyphenated, by simp [walk], content_written (by decide) 1,
    line, member, List.isPrefixOf_iff_prefix.mp start⟩

end FileShelf

namespace Book

theorem listed_iff_found_hyphenated :
    hyphenated.connected = true ∧ hyphenated.library.shelf = .files .ofSections ∧
    FileShelf.ofSections.arrangement = .manyPerFile ∧
    FileShelf.ofSections.Readable hyphenated.library.tree ∧
    ∃ names, (∃ after, toc hyphenated = .ok names after) ∧ "b" ∈ names ∧ "a-b" ∉ names ∧
      ¬ Catalog.Misses hyphenated.library "a-b" ⟨[], []⟩ := by
  obtain ⟨names, listed, answers⟩ :=
    @listed_iff_found _ hyphenated .ofSections rfl rfl rfl FileShelf.readable_hyphenated
  have found (tag : String)
      (header : (Section.lines Section.hyphenated).any (tag.toList ++ [':']).isPrefixOf = true) :
      ¬ Catalog.Misses hyphenated.library tag ⟨[], []⟩ := by
    rw [((answers tag).2 ⟨[], []⟩).2, not_not]
    exact FileShelf.hasHeader_hyphenated header
  refine ⟨rfl, rfl, rfl, FileShelf.readable_hyphenated, names, listed, ?_, ?_,
    found "a-b" (by decide)⟩
  · exact ((answers "b").2 ⟨[], []⟩).1.mpr ⟨by decide, found "b" (by decide)⟩
  · intro member
    exact absurd (((answers "a-b").2 ⟨[], []⟩).1.mp member).1 (by decide)

theorem exists_unlisted :
    (∃ after, Catalog.find hyphenated.library "a-b" ⟨[], []⟩ = .ok "DELETE FROM x" after) ∧
      (∃ after, toc hyphenated = .ok ["b"] after) ∧
      ∃ after, hasTag "a-b" hyphenated = .ok false after := by
  have found : Section.find "a-b".toList Section.hyphenated =
      .template "DELETE FROM x".toList := by decide
  have held := Library.template_holding (by decide) found
  rw [String.ofList_toList] at held
  have tags : Section.listedTags Section.hyphenated = ["b"] := by decide
  have sorted : sortedNames ["b"] = ["b"] := by
    rw [sortedNames, List.mergeSort_singleton]
    rfl
  have listed := @Library.toc_holding Section.hyphenated (by decide)
  rw [tags, sorted] at listed
  exact ⟨Catalog.exists_find_of_template held, (@ends_toc _ hyphenated _ rfl listed).exists_ok,
    @exists_hasTag _ hyphenated _ rfl listed "a-b"⟩

end Book

end QueryBook
