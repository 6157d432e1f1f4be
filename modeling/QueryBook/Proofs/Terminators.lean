import QueryBook.Proofs.Joining
import QueryBook.Proofs.Sections

set_option autoImplicit false

namespace QueryBook

namespace Text

variable {mark body cs : List Char}

theorem ClosedBy.not_infix (closed : ClosedBy mark body) (nonempty : mark ≠ []) :
    ¬ mark <:+: body := by
  rintro ⟨before, after, rfl⟩
  apply closed before.length
  · have := List.length_pos_iff.mpr nonempty
    simp only [List.length_append]
    omega
  · simp

theorem exists_trim (cs : List Char) :
    ∃ front back, cs = front ++ (trim cs ++ back) ∧ (∀ c ∈ front, isBlank c = true) ∧
      ∀ c ∈ back, isBlank c = true := by
  obtain ⟨back, split, blank⟩ := exists_trimEnd (trimStart cs)
  refine ⟨cs.takeWhile isBlank, back, ?_, List.all_eq_true.mp List.all_takeWhile, blank⟩
  rw [trim, ← split, trimStart, List.takeWhile_append_dropWhile]

end Text

namespace Section

variable {tag body more line rest content text : List Char} {name : String} {tags : List String}

def Unclosed (rest : List Char) : Prop :=
  ∃ front header, rest = front ++ '\n' :: header ∧ IsHeader header ∧ ¬ terminator <:+: front

def StartsInLine (rest : List Char) : Prop :=
  (rest.takeWhile Text.isBlank).getLast? ≠ some '\n'

def BeginsWith (tags : List String) (line : List Char) : Prop :=
  ∃ name ∈ tags, name.toList ++ [':'] <+: line

section Found

theorem find_eq_absent_iff : find tag content = .absent ↔ afterHeader? tag content = none := by
  unfold find
  cases afterHeader? tag content with
  | none => simp
  | some rest =>
    simp only [reduceCtorEq, iff_false]
    cases Text.breakAt? terminator rest <;> simp

theorem find_eq_unterminated_iff : find tag content = .unterminated ↔
    ∃ rest, afterHeader? tag content = some rest ∧ ¬ terminator <:+: rest := by
  unfold find
  cases afterHeader? tag content with
  | none => simp
  | some rest =>
    simp only [Option.some.injEq, exists_eq_left', ← Text.isSome_breakAt?_iff]
    cases Text.breakAt? terminator rest <;> simp

theorem exists_of_find_eq_template (found : find tag content = .template text) :
    ∃ rest body more, afterHeader? tag content = some rest ∧ rest = body ++ (terminator ++ more) ∧
      Text.ClosedBy terminator body ∧ text = Text.trim body := by
  unfold find at found
  cases header : afterHeader? tag content with
  | none => simp [header] at found
  | some rest =>
    cases broken : Text.breakAt? terminator rest with
    | none => simp [header, broken] at found
    | some parts =>
      obtain ⟨body, more⟩ := parts
      simp only [header, broken, Found.template.injEq] at found
      exact ⟨rest, body, more, rfl, Text.eq_of_breakAt? broken, Text.closedBy_of_breakAt? broken,
        found.symm⟩

end Found

section Headers

theorem mem_lines_of_mem_afterBreaks {front : List Char} (member : line ∈ afterBreaks body) :
    line ++ more ∈ lines (front ++ (body ++ more)) := by
  obtain ⟨before, rfl⟩ := mem_afterBreaks_iff.mp member
  refine List.mem_cons_of_mem _ (mem_afterBreaks_iff.mpr ⟨front ++ before, by simp⟩)

theorem IsHeader.append (header : IsHeader line) (more : List Char) : IsHeader (line ++ more) := by
  obtain ⟨tag, rest, isTag, rfl⟩ := header
  exact ⟨tag, rest ++ more, isTag, by simp⟩

theorem not_isHeader_terminator (more : List Char) : ¬ IsHeader (';' :: ';' :: more) :=
  not_isHeader_cons (by decide) _

-- A header behind the terminator says nothing about the section.
theorem unclosed_iff (closed : Text.ClosedBy terminator body) (more : List Char) :
    Unclosed (body ++ (terminator ++ more)) ↔ ∃ line ∈ afterBreaks body, IsHeader line := by
  constructor
  · rintro ⟨front, header, same, isHeader, unended⟩
    rcases List.append_eq_append_iff.mp same with ⟨back, rfl, behind⟩ | ⟨line, rfl, behind⟩
    · -- The terminator stands in front of the header, or overlaps with its line break.
      exfalso
      rcases back with _ | ⟨a, _ | ⟨b, _ | ⟨c, back⟩⟩⟩ <;>
        simp only [terminator, List.cons_append, List.nil_append, List.cons.injEq] at behind
      · exact not_isHeader_terminator more (behind.2 ▸ isHeader)
      · exact absurd behind.2.1 (by decide)
      · exact absurd behind.2.2.1 (by decide)
      · obtain ⟨rfl, rfl, rfl, -⟩ := behind
        exact unended ⟨body, back, by simp [terminator]⟩
    · cases line with
      | nil =>
        obtain ⟨-, rfl⟩ := List.cons.inj behind
        exact absurd isHeader (not_isHeader_terminator more)
      | cons c line =>
        obtain ⟨rfl, rfl⟩ := List.cons.inj behind
        exact ⟨line, mem_afterBreaks_iff.mpr ⟨front, rfl⟩, isHeader.of_append⟩
  · rintro ⟨line, member, isHeader⟩
    obtain ⟨front, rfl⟩ := mem_afterBreaks_iff.mp member
    refine ⟨front, line ++ (terminator ++ more), by simp, isHeader.append _, fun ended => ?_⟩
    exact closed.not_infix (by decide) (ended.trans (List.prefix_append front _).isInfix)

theorem mem_listedTags_of_isHeader (isHeader : IsHeader line)
    (member : line ++ more ∈ lines content) :
    ∃ name ∈ listedTags content, name.toList ++ [':'] <+: line := by
  obtain ⟨tag, rest, isTag, rfl⟩ := isHeader
  refine ⟨String.ofList tag, List.mem_filterMap.mpr ⟨_, member, ?_⟩, rest, by simp⟩
  have listed := @listedTag?_header (String.ofList tag) (by simpa using isTag) (rest ++ more)
  simpa using listed

theorem isTag_of_mem_listedTags (member : name ∈ listedTags content) : IsTag name.toList := by
  obtain ⟨line, -, listed⟩ := List.mem_filterMap.mp member
  exact (exists_of_listedTag? listed).1

theorem exists_of_afterHeader? (header : afterHeader? tag content = some rest) :
    ∃ front, content = front ++ rest := by
  obtain ⟨line, member, start⟩ := List.exists_of_findSome?_eq_some header
  have whole := Text.eq_of_after? start
  rcases List.mem_cons.mp member with rfl | member
  · exact ⟨_, whole⟩
  · obtain ⟨front, rfl⟩ := mem_afterBreaks_iff.mp member
    exact ⟨front ++ '\n' :: (tag ++ [':']), by simp [whole]⟩

end Headers

section Listed

theorem BeginsWith.append (begins : BeginsWith tags line) (more : List Char) :
    BeginsWith tags (line ++ more) := by
  obtain ⟨name, member, start⟩ := begins
  exact ⟨name, member, start.trans (List.prefix_append line more)⟩

theorem BeginsWith.of_append_blank {blanks : List Char}
    (blank : ∀ c ∈ blanks, Text.isBlank c = true) (begins : BeginsWith tags (line ++ blanks)) :
    BeginsWith tags line := by
  obtain ⟨name, member, start⟩ := begins
  have solid : ∀ c ∈ (name.toList ++ [':']).getLast?, Text.isBlank c = false := by
    simp only [List.getLast?_concat, Option.mem_some_iff, forall_eq']
    decide
  exact ⟨name, member, Text.prefix_of_prefix_append_blank blank solid start⟩

variable (isTags : ∀ name ∈ tags, IsTag name.toList)
include isTags

theorem BeginsWith.isHeader (begins : BeginsWith tags line) : IsHeader line := by
  obtain ⟨name, member, rest, rfl⟩ := begins
  exact ⟨name.toList, rest, isTags name member, by simp⟩

theorem BeginsWith.head_solid (begins : BeginsWith tags line) :
    ∃ c, line.head? = some c ∧ Text.isBlank c = false := by
  obtain ⟨tag, rest, isTag, rfl⟩ := begins.isHeader isTags
  obtain ⟨c, tag, rfl⟩ := List.exists_cons_of_ne_nil isTag.1
  refine ⟨c, rfl, ?_⟩
  by_contra blank
  have unwordly := Text.not_isWord_of_isBlank (by simpa using blank)
  simp [isTag.2 c (by simp)] at unwordly

-- A text that is trimmed has the headers of its lines, but for one that it begins with itself.
theorem exists_beginsWith_iff (body more : List Char) :
    (∃ line ∈ lines (Text.trim body), BeginsWith tags line) ↔
      (∃ line ∈ afterBreaks body, BeginsWith tags line) ∨
        StartsInLine (body ++ more) ∧ BeginsWith tags (Text.trim body) := by
  obtain ⟨front, back, split, before, behind⟩ := Text.exists_trim body
  generalize Text.trim body = text at split ⊢
  have all : afterBreaks body = (afterBreaks front).map (· ++ (text ++ back)) ++
      ((afterBreaks text).map (· ++ back) ++ afterBreaks back) := by
    rw [split, afterBreaks_append, afterBreaks_append]
  constructor
  · rintro ⟨line, member, begins⟩
    rcases List.mem_cons.mp member with rfl | member
    · by_cases atLine : front.getLast? = some '\n'
      · obtain ⟨blanks, rfl⟩ := List.getLast?_eq_some_iff.mp atLine
        exact .inl ⟨line ++ back, mem_afterBreaks_iff.mpr ⟨blanks, by simp [split]⟩,
          begins.append back⟩
      · obtain ⟨c, first, plain⟩ := begins.head_solid isTags
        have stop : ∀ d ∈ (line ++ (back ++ more)).head?, Text.isBlank d = false := by
          rw [List.head?_append, first]
          rintro d ⟨⟩
          exact plain
        refine .inr ⟨?_, begins⟩
        rwa [StartsInLine, split, List.append_assoc, List.append_assoc,
          Text.takeWhile_append_of_stop before stop]
    · refine .inl ⟨line ++ back, ?_, begins.append back⟩
      rw [all]
      exact List.mem_append_right _ (List.mem_append_left _ (List.mem_map_of_mem member))
  · rintro (⟨line, member, begins⟩ | ⟨-, begins⟩)
    · obtain ⟨c, first, plain⟩ := begins.head_solid isTags
      rw [all, List.mem_append, List.mem_append, List.mem_map, List.mem_map] at member
      rcases member with ⟨blanks, member, rfl⟩ | ⟨line, member, rfl⟩ | member
      · cases blanks with
        | nil => exact ⟨text, List.mem_cons_self .., begins.of_append_blank behind⟩
        | cons d blanks =>
          obtain ⟨_, rfl⟩ := mem_afterBreaks_iff.mp member
          obtain rfl : d = c := Option.some.inj first
          simp [before d (by simp)] at plain
      · exact ⟨line, List.mem_cons_of_mem _ member, begins.of_append_blank behind⟩
      · obtain ⟨_, rfl⟩ := mem_afterBreaks_iff.mp member
        have inside := List.mem_of_head? first
        simp [behind c (by simp [inside])] at plain
    · exact ⟨text, List.mem_cons_self .., begins⟩

-- A template that is found has the header of a listed tag in it exactly when its section is not
-- ended where the next one begins; or when its text begins like one, behind its own header.
theorem beginsWith_template_iff (listed : ∀ name ∈ listedTags content, name ∈ tags)
    (found : find tag content = .template text) :
    ∃ rest, afterHeader? tag content = some rest ∧ terminator <:+: rest ∧
      ((∃ line ∈ lines text, BeginsWith tags line) ↔
        Unclosed rest ∨ StartsInLine rest ∧ BeginsWith tags text) := by
  obtain ⟨rest, body, more, header, rfl, closed, rfl⟩ := exists_of_find_eq_template found
  obtain ⟨front, whole⟩ := exists_of_afterHeader? header
  refine ⟨_, header, ⟨body, more, by simp⟩, ?_⟩
  rw [exists_beginsWith_iff isTags body (terminator ++ more), unclosed_iff closed]
  have same : (∃ line ∈ afterBreaks body, BeginsWith tags line) ↔
      ∃ line ∈ afterBreaks body, IsHeader line := by
    constructor
    · rintro ⟨line, member, begins⟩
      exact ⟨line, member, begins.isHeader isTags⟩
    · rintro ⟨line, member, isHeader⟩
      have inFile : line ++ (terminator ++ more) ∈ lines content :=
        whole ▸ mem_lines_of_mem_afterBreaks member
      obtain ⟨name, own, start⟩ := mem_listedTags_of_isHeader isHeader inFile
      exact ⟨line, member, name, listed name own, start⟩
  rw [same]

end Listed

end Section

namespace FileShelf

variable {shelf : FileShelf} {tree : FileTree} {tag name text : String} {path : Path}
  {content rest : List Char} {tags : List String} {stops : List Stop} {e : Error}

theorem collectTags_eq_ok (collected : (shelf.collectTags tree stops).result = .ok tags) :
    (∀ path fault, .refused path fault ∉ stops) ∧
      (∀ path, .file path ∈ stops → ∃ own, shelf.tagsIn tree path = .ok own) ∧
      ∀ name, name ∈ tags ↔
        ∃ path own, .file path ∈ stops ∧ shelf.tagsIn tree path = .ok own ∧ name ∈ own := by
  induction stops generalizing tags with
  | nil =>
    cases collected
    simp
  | cons stop stops ih =>
    cases stop with
    | missing directory => simpa using ih collected
    | refused directory fault => cases collected
    | file first =>
      simp only [collectTags] at collected
      cases held : shelf.tagsIn tree first with
      | error e =>
        rw [held] at collected
        cases collected
      | ok own =>
        rw [held] at collected
        cases later : (shelf.collectTags tree stops).result with
        | error e =>
          simp only [later] at collected
          cases collected
        | ok others =>
          simp only [later] at collected
          cases collected
          obtain ⟨admits, reads, listed⟩ := ih later
          refine ⟨by simpa using admits, fun path member => ?_, fun name => ?_⟩
          · rcases List.mem_cons.mp member with here | member
            · cases here
              exact ⟨own, held⟩
            · exact reads path member
          · rw [List.mem_append, listed name]
            constructor
            · rintro (inFirst | ⟨path, own', member, held', inLater⟩)
              · exact ⟨first, own, List.mem_cons_self .., held, inFirst⟩
              · exact ⟨path, own', List.mem_cons_of_mem _ member, held', inLater⟩
            · rintro ⟨path, own', member, held', within⟩
              rcases List.mem_cons.mp member with here | member
              · cases here
                obtain rfl : own = own' := Except.ok.inj (held.symm.trans held')
                exact .inl within
              · exact .inr ⟨path, own', member, held', within⟩

theorem exists_content_of_tagsIn (many : shelf.arrangement = .manyPerFile)
    (read : shelf.tagsIn tree path = .ok tags) :
    ∃ content, shelf.content tree path = .ok content ∧ tags = Section.listedTags content := by
  simp only [tagsIn, many] at read
  cases held : shelf.content tree path with
  | error e =>
    rw [held] at read
    cases read
  | ok content =>
    rw [held] at read
    cases read
    exact ⟨content, rfl, rfl⟩

theorem sectionIn_eq_ok_some (held : shelf.sectionIn tree tag path = .ok (some text)) :
    ∃ content, shelf.content tree path = .ok content ∧
      Section.find tag.toList content = .template text.toList := by
  unfold sectionIn at held
  split at held
  next => cases held
  next content read =>
    split at held
    next => cases held
    next => cases held
    next cs found =>
      cases held
      exact ⟨content, read, by rw [found, String.toList_ofList]⟩

theorem sectionIn_eq_ok_none (lacks : shelf.sectionIn tree tag path = .ok none)
    (read : shelf.content tree path = .ok content) :
    Section.afterHeader? tag.toList content = none := by
  rw [← Section.find_eq_absent_iff]
  simp only [sectionIn, read] at lacks
  split at lacks
  next absent => exact absent
  next => cases lacks
  next => cases lacks

theorem sectionIn_eq_error (broken : shelf.sectionIn tree tag path = .error e)
    (read : shelf.content tree path = .ok content) :
    e = .unterminated tag path.text ∧ ∃ rest,
      Section.afterHeader? tag.toList content = some rest ∧ ¬ Section.terminator <:+: rest := by
  rw [← Section.find_eq_unterminated_iff]
  simp only [sectionIn, read] at broken
  split at broken
  next => cases broken
  next unterminated =>
    cases broken
    exact ⟨rfl, unterminated⟩
  next => cases broken

structure Lists (shelf : FileShelf) (tree : FileTree) (tags : List String) : Prop where
  admits : ∀ path fault, .refused path fault ∉ shelf.walk tree
  reads : ∀ path, .file path ∈ shelf.walk tree → ∃ content, shelf.content tree path = .ok content
  isTag : ∀ name ∈ tags, Section.IsTag name.toList
  listed : ∀ path content, .file path ∈ shelf.walk tree → shelf.content tree path = .ok content →
    ∀ name ∈ Section.listedTags content, name ∈ tags

theorem lists_of_toc (many : shelf.arrangement = .manyPerFile)
    (listed : (Shelf.toc (.files shelf) tree).result = .ok tags) : shelf.Lists tree tags := by
  simp only [Shelf.toc] at listed
  cases collected : (shelf.collectTags tree (shelf.walk tree)).result with
  | error e =>
    rw [collected] at listed
    cases listed
  | ok names =>
    rw [collected] at listed
    cases listed
    obtain ⟨admits, reads, mem_names⟩ := collectTags_eq_ok collected
    refine ⟨admits, fun path member => ?_, fun name member => ?_,
      fun path content member read name own => ?_⟩
    · obtain ⟨own, read⟩ := reads path member
      obtain ⟨content, read, -⟩ := exists_content_of_tagsIn many read
      exact ⟨content, read⟩
    · rw [mem_sortedNames, mem_names] at member
      obtain ⟨path, own, -, read, within⟩ := member
      obtain ⟨content, -, rfl⟩ := exists_content_of_tagsIn many read
      exact Section.isTag_of_mem_listedTags within
    · rw [mem_sortedNames, mem_names]
      refine ⟨path, _, member, ?_, own⟩
      simp only [tagsIn, many, read]
      rfl

end FileShelf

namespace Catalog

variable {library : Library} {shelf : FileShelf} {tags : List String} {before after : Catalog}

/-- Any tag that is looked for in files with many templates. A template that is found has the header
of a listed tag in it exactly when its section is not ended where the next one begins; apart from a
text that begins like a header, but not at the start of a line. When none is found, no file has a
header of the tag, or no terminator comes after the header. -/
theorem find_unclosed (files : library.shelf = .files shelf)
    (many : shelf.arrangement = .manyPerFile) (listed : toc library before = .ok tags after)
    (tag : String) (catalog : Catalog) :
    Action.Ends (find library tag) catalog
      (fun text _ => ∃ path content rest,
        (shelf.resolve library.tree tag).result = .ok path ∧
        shelf.content library.tree path = .ok content ∧
        Section.afterHeader? tag.toList content = some rest ∧ Section.terminator <:+: rest ∧
        ((∃ line ∈ Section.lines text.toList, Section.BeginsWith tags line) ↔
          Section.Unclosed rest ∨
            Section.StartsInLine rest ∧ Section.BeginsWith tags text.toList))
      (fun e _ =>
        (e = .unknownTag tag ∧ ∀ path content, .file path ∈ shelf.walk library.tree →
          shelf.content library.tree path = .ok content →
          Section.afterHeader? tag.toList content = none) ∨
        ∃ path content rest, e = .unterminated tag path.text ∧
          .file path ∈ shelf.walk library.tree ∧
          shelf.content library.tree path = .ok content ∧
          Section.afterHeader? tag.toList content = some rest ∧
          ¬ Section.terminator <:+: rest) := by
  have result : (library.shelf.toc library.tree).result = .ok tags := result_of_conclude listed
  have lists : shelf.Lists library.tree tags := FileShelf.lists_of_toc many (files ▸ result)
  have search : shelf.resolve library.tree tag =
      shelf.searchSections library.tree tag (shelf.walk library.tree) := by
    simp only [FileShelf.resolve, many]
  apply ends_find
  · intro text source journal found resolved
    obtain ⟨path, rfl, located⟩ := Library.exists_path_of_resolve files resolved
    rw [Library.template_of_files files located] at found
    obtain ⟨text', held⟩ := FileShelf.exists_of_searchSections (search ▸ located)
    simp only [FileShelf.read, many, held] at found
    cases found
    obtain ⟨content, read, inFile⟩ := FileShelf.sectionIn_eq_ok_some held
    have member := FileShelf.mem_of_searchSections (search ▸ located)
    obtain ⟨rest, header, ended, same⟩ :=
      Section.beginsWith_template_iff lists.isTag (lists.listed path content member read) inFile
    exact ⟨path, content, rest, located, read, header, ended, same⟩
  · intro e journal missing
    have failed : (shelf.searchSections library.tree tag (shelf.walk library.tree)).result =
        .error e := by
      rw [← search]
      cases located : (shelf.resolve library.tree tag).result with
      | ok path =>
        obtain ⟨text, held⟩ := FileShelf.exists_of_searchSections (search ▸ located)
        rw [Library.template_of_files files located] at missing
        simp only [FileShelf.read, many, held] at missing
        cases missing
      | error e' =>
        simpa [Library.template, files, Shelf.resolve, located, Functor.map, Except.map]
          using missing
    cases FileShelf.searchSections_failed failed with
    | absent lacks _ =>
      exact .inl ⟨rfl, fun path content member read =>
        FileShelf.sectionIn_eq_ok_none (lacks path member) read⟩
    | @broken path _ member broken =>
      obtain ⟨content, read⟩ := lists.reads path member
      obtain ⟨rfl, rest, header, unended⟩ := FileShelf.sectionIn_eq_error broken read
      exact .inr ⟨path, content, rest, rfl, member, read, header, unended⟩
    | @refused path fault member => exact absurd member (lists.admits path fault)

end Catalog

def Section.absorbing : List Char :=
  "a:\nDELETE FROM x\nb:\nDELETE FROM y\n;;\n".toList

def Library.absorbing : Library where
  shelf := .files .ofSections
  tree := FileTree.empty.write ["lib", "bugs.msql"]
    (Section.absorbing.flatMap String.utf8EncodeChar) 1

theorem Section.unclosed_absorbing : Unclosed "\nDELETE FROM x\nb:\nDELETE FROM y\n;;\n".toList :=
  ⟨"\nDELETE FROM x".toList, "b:\nDELETE FROM y\n;;\n".toList, rfl, by decide, by decide⟩

theorem Section.find_absorbing :
    find "a".toList absorbing = .template "DELETE FROM x\nb:\nDELETE FROM y".toList := by
  decide

theorem FileShelf.content_absorbing :
    ofSections.content Library.absorbing.tree ["lib", "bugs.msql"] = .ok Section.absorbing :=
  content_written (by decide) 1

theorem FileShelf.resolve_absorbing :
    (ofSections.resolve Library.absorbing.tree "a").result = .ok ["lib", "bugs.msql"] :=
  resolve_holding (by decide) Section.find_absorbing

namespace Catalog

theorem exists_toc_absorbing : ∃ after, toc .absorbing ⟨[], []⟩ = .ok ["a", "b"] after := by
  have tags : Section.listedTags Section.absorbing = ["a", "b"] := by decide
  have sorted : sortedNames ["a", "b"] = ["a", "b"] := by
    rw [sortedNames, List.mergeSort_of_pairwise (by decide)]
    rfl
  have listed := @Library.toc_holding Section.absorbing (by decide)
  rw [tags, sorted] at listed
  exact exists_toc listed

theorem exists_find_absorbing :
    ∃ after, find .absorbing "a" ⟨[], []⟩ = .ok "DELETE FROM x\nb:\nDELETE FROM y" after := by
  have held := Library.template_holding (by decide) Section.find_absorbing
  rw [String.ofList_toList] at held
  exact exists_find_of_template held

theorem find_unclosed_absorbing :
    Library.absorbing.shelf = .files .ofSections ∧
    FileShelf.ofSections.arrangement = .manyPerFile ∧
    (∃ after, toc .absorbing ⟨[], []⟩ = .ok ["a", "b"] after) ∧
    ∃ text after, find .absorbing "a" ⟨[], []⟩ = .ok text after ∧
      ∃ line ∈ Section.lines text.toList, Section.BeginsWith ["a", "b"] line := by
  obtain ⟨after, found⟩ := exists_find_absorbing
  obtain ⟨listing, listed⟩ := exists_toc_absorbing
  obtain ⟨path, content, rest, located, read, header, -, headers⟩ :=
    (find_unclosed rfl rfl listed "a" ⟨[], []⟩).of_ok found
  obtain rfl := Except.ok.inj (FileShelf.resolve_absorbing.symm.trans located)
  obtain rfl := Except.ok.inj (FileShelf.content_absorbing.symm.trans read)
  have behind : Section.afterHeader? "a".toList Section.absorbing =
      some "\nDELETE FROM x\nb:\nDELETE FROM y\n;;\n".toList := by decide
  obtain rfl := Option.some.inj (behind.symm.trans header)
  exact ⟨rfl, rfl, ⟨listing, listed⟩, _, after, found,
    headers.mpr (.inl Section.unclosed_absorbing)⟩

theorem exists_absorbed :
    let text := "DELETE FROM x\nb:\nDELETE FROM y"
    (∃ after, find .absorbing "a" ⟨[], []⟩ = .ok text after) ∧
      (∃ after, toc .absorbing ⟨[], []⟩ = .ok ["a", "b"] after) ∧
      "b:\nDELETE FROM y".toList ∈ Section.lines text.toList :=
  ⟨exists_find_absorbing, exists_toc_absorbing, by decide⟩

end Catalog

end QueryBook
