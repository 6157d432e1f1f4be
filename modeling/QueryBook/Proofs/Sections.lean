import QueryBook.Proofs.Encodings
import QueryBook.Proofs.FileEdits
import QueryBook.Proofs.Printing
import Mathlib.Data.List.Basic

set_option autoImplicit false

namespace QueryBook

namespace Section

def IsTag (tag : List Char) : Prop :=
  tag ≠ [] ∧ ∀ c ∈ tag, Text.isWord c = true

-- An instance by name: a search may find one that goes through all characters there are.
instance (tag : List Char) : Decidable (IsTag tag) :=
  have : Decidable (∀ c ∈ tag, Text.isWord c = true) := List.decidableBAll _ tag
  inferInstanceAs (Decidable (tag ≠ [] ∧ ∀ c ∈ tag, Text.isWord c = true))

def IsHeader (line : List Char) : Prop :=
  ∃ tag rest, IsTag tag ∧ line = tag ++ ':' :: rest

structure Storable (body : List Char) : Prop where
  trimmed : Text.trim body = body
  unbroken : '\r' ∉ body
  unended : ∀ line ∈ lines body, ¬ [';', ';'] <+: line
  headless : ∀ line ∈ lines body, ¬ IsHeader line

structure IsSection (s : String × String) : Prop where
  isTag : IsTag s.1.toList
  storable : Storable s.2.toList

def ending (body more : List Char) : List Char :=
  '\n' :: body ++ terminator ++ '\n' :: more

def written (s : String × String) : List Char :=
  s.1.toList ++ ':' :: ending s.2.toList []

def layOut (sections : List (String × String)) : List Char :=
  ['\n'].intercalate (sections.map written)

def following : List (String × String) → List Char
  | [] => []
  | rest => '\n' :: layOut rest

variable {tag body more line rest : List Char}

theorem layOut_cons (s : String × String) (rest : List (String × String)) :
    layOut (s :: rest) = s.1.toList ++ ':' :: ending s.2.toList (following rest) := by
  cases rest with
  | nil => simp [layOut, following, written]
  | cons other rest => simp [layOut, following, written, ending, List.intercalate_cons_cons]

example : layOut [("egg", "x"), ("chicken", "")] = "egg:\nx\n;;\n\nchicken:\n\n;;\n".toList := by
  decide

section Lines

theorem afterBreaks_append (front back : List Char) :
    afterBreaks (front ++ back) = (afterBreaks front).map (· ++ back) ++ afterBreaks back := by
  induction front with
  | nil => rfl
  | cons c front ih =>
    simp only [List.cons_append, afterBreaks]
    split <;> simp [ih]

theorem afterBreaks_of_unbroken (unbroken : '\n' ∉ body) : afterBreaks body = [] := by
  induction body with
  | nil => rfl
  | cons c body ih =>
    obtain ⟨different, unbroken⟩ := not_or.mp (List.mem_cons.not.mp unbroken)
    rw [afterBreaks, if_neg (Ne.symm different), ih unbroken]

theorem mem_afterBreaks_iff : line ∈ afterBreaks body ↔ ∃ front, body = front ++ '\n' :: line := by
  constructor
  · intro member
    induction body with
    | nil => simp [afterBreaks] at member
    | cons c body ih =>
      simp only [afterBreaks] at member
      split at member
      next isBreak =>
        rcases List.mem_cons.mp member with rfl | later
        · exact ⟨[], by rw [isBreak, List.nil_append]⟩
        · obtain ⟨front, rfl⟩ := ih later
          exact ⟨c :: front, rfl⟩
      next =>
        obtain ⟨front, rfl⟩ := ih member
        exact ⟨c :: front, rfl⟩
  · rintro ⟨front, rfl⟩
    rw [afterBreaks_append]
    simp [afterBreaks]

theorem mem_lines_of_break {before : List Char} (split : '\n' :: body = before ++ '\n' :: line) :
    line ∈ lines body := by
  have all : lines body = afterBreaks ('\n' :: body) := by simp [lines, afterBreaks]
  rw [all]
  exact mem_afterBreaks_iff.mpr ⟨before, split⟩

end Lines

theorem ne_of_isWord {c mark : Char} (word : Text.isWord c = true)
    (other : Text.isWord mark = false) : c ≠ mark := by
  rintro rfl
  simp [word] at other

theorem IsTag.not_mem (isTag : IsTag tag) {mark : Char} (other : Text.isWord mark = false) :
    mark ∉ tag := by
  intro member
  exact ne_of_isWord (isTag.2 mark member) other rfl

theorem not_isHeader_cons {c : Char} (other : Text.isWord c = false) (rest : List Char) :
    ¬ IsHeader (c :: rest) := by
  rintro ⟨tag, after, isTag, same⟩
  cases tag with
  | nil => exact isTag.1 rfl
  | cons d tag =>
    obtain ⟨rfl, -⟩ := List.cons.inj same
    exact isTag.not_mem other (List.mem_cons_self)

theorem IsHeader.of_append (header : IsHeader (line ++ '\n' :: rest)) : IsHeader line := by
  obtain ⟨tag, after, isTag, same⟩ := header
  rcases List.append_eq_append_iff.mp same with ⟨back, rfl, broken⟩ | ⟨back, rfl, within⟩
  · cases back with
    | nil => cases broken
    | cons c back =>
      obtain ⟨rfl, -⟩ := List.cons.inj broken
      exact absurd (by simp) (isTag.not_mem (show Text.isWord '\n' = false by decide))
  · cases back with
    | nil => cases within
    | cons c back =>
      obtain ⟨rfl, -⟩ := List.cons.inj within
      exact ⟨tag, back, isTag, rfl⟩

section Layout

variable {β : Type} {f : List Char → Option β} (reads : ∀ line, ¬ IsHeader line → f line = none)
include reads

theorem filterMap_lines_following (rest : List (String × String)) :
    (lines (following rest)).filterMap f = (lines (layOut rest)).filterMap f := by
  cases rest with
  | nil => rfl
  | cons other rest =>
    have blank := reads _ (not_isHeader_cons (show Text.isWord '\n' = false by decide)
      (layOut (other :: rest)))
    have all : lines (following (other :: rest)) =
        ('\n' :: layOut (other :: rest)) :: lines (layOut (other :: rest)) := by
      simp [following, lines, afterBreaks]
    rw [all, List.filterMap_cons_none blank]

theorem filterMap_lines_layOut {s : String × String} (isSection : IsSection s)
    (rest : List (String × String)) :
    (lines (layOut (s :: rest))).filterMap f =
      (f (layOut (s :: rest))).toList ++ (lines (layOut rest)).filterMap f := by
  have unbroken : '\n' ∉ s.1.toList ++ [':'] := by
    have := isSection.isTag.not_mem (show Text.isWord '\n' = false by decide)
    simpa using this
  have behind : afterBreaks (layOut (s :: rest)) =
      (lines s.2.toList).map (· ++ (terminator ++ '\n' :: following rest)) ++
        (';' :: ';' :: '\n' :: following rest) :: lines (following rest) := by
    rw [layOut_cons, List.append_cons, afterBreaks_append, afterBreaks_of_unbroken unbroken]
    simp [ending, terminator, afterBreaks, lines, afterBreaks_append]
  have inside : ((lines s.2.toList).map
      (· ++ (terminator ++ '\n' :: following rest))).filterMap f = [] := by
    rw [List.filterMap_map, List.filterMap_eq_nil_iff]
    intro line member
    exact reads _ fun header => isSection.storable.headless line member header.of_append
  have last := reads _ (not_isHeader_cons (show Text.isWord ';' = false by decide)
    (';' :: '\n' :: following rest))
  rw [lines, List.filterMap_cons, behind, List.filterMap_append, inside,
    List.filterMap_cons_none last, filterMap_lines_following reads]
  cases f (layOut (s :: rest)) <;> rfl

end Layout

theorem Storable.closedBy (storable : Storable body) :
    Text.ClosedBy terminator ('\n' :: body) := by
  intro i inside early
  obtain ⟨after, same⟩ := early
  rw [List.drop_append_of_le_length (Nat.le_of_lt inside)] at same
  cases dropped : ('\n' :: body).drop i with
  | nil => exact absurd (List.drop_eq_nil_iff.mp dropped) (Nat.not_le_of_lt inside)
  | cons c line =>
    rw [dropped] at same
    simp only [terminator, List.cons_append, List.cons.injEq] at same
    obtain ⟨rfl, same⟩ := same
    have isLine : line ∈ lines body := by
      apply @mem_lines_of_break body line (('\n' :: body).take i)
      rw [← dropped, List.take_append_drop]
    apply storable.unended line isLine
    rcases line with _ | ⟨c, _ | ⟨d, line⟩⟩
    · simp at same
    · simp at same
    · simp only [List.nil_append, List.cons_append, List.cons.injEq] at same
      obtain ⟨rfl, rfl, -⟩ := same
      exact ⟨line, rfl⟩

theorem find_of_afterHeader? (storable : Storable body)
    (header : afterHeader? tag line = some (ending body more)) :
    find tag line = .template body := by
  have broken : Text.breakAt? terminator (ending body more) =
      some ('\n' :: body, '\n' :: more) := by
    have closed := Text.breakAt?_of_closedBy storable.closedBy ('\n' :: more)
    rwa [← List.append_assoc] at closed
  have trimmed : Text.trim ('\n' :: body) = body := by
    have blank : Text.isBlank '\n' = true := by decide
    rw [Text.trim, Text.trimStart_cons, if_pos blank]
    exact storable.trimmed
  simp only [find, header, broken, trimmed]

section Headers

theorem isHeader_of_after? (isTag : IsTag tag)
    (found : Text.after? (tag ++ [':']) line = some rest) : IsHeader line :=
  ⟨tag, rest, isTag, by simpa using Text.eq_of_after? found⟩

theorem isHeader_of_listedTag? {name : String} (found : listedTag? line = some name) :
    IsHeader line := by
  unfold listedTag? at found
  split at found
  next after stop =>
    simp only at found
    split at found
    next => cases found
    next nonempty =>
      refine ⟨line.takeWhile Text.isWord, after, ⟨nonempty, ?_⟩, ?_⟩
      · exact List.all_eq_true.mp List.all_takeWhile
      · rw [← stop, List.takeWhile_append_dropWhile]
  next => cases found

theorem after?_eq_none (isTag : IsTag tag) (quiet : ¬ IsHeader line) :
    Text.after? (tag ++ [':']) line = none := by
  cases found : Text.after? (tag ++ [':']) line with
  | none => rfl
  | some rest => exact absurd (isHeader_of_after? isTag found) quiet

theorem listedTag?_eq_none (quiet : ¬ IsHeader line) : listedTag? line = none := by
  cases found : listedTag? line with
  | none => rfl
  | some name => exact absurd (isHeader_of_listedTag? found) quiet

theorem listedTag?_header {name : String} (isTag : IsTag name.toList) (rest : List Char) :
    listedTag? (name.toList ++ ':' :: rest) = some name := by
  have stop : ∀ c ∈ (':' :: rest).head?, Text.isWord c = false := by
    intro c first
    cases first
    decide
  unfold listedTag?
  simp only [Text.takeWhile_append_of_stop isTag.2 stop, Text.dropWhile_append_of_stop isTag.2 stop,
    if_neg isTag.1, String.ofList_toList]

theorem exists_of_listedTag? {name : String} (listed : listedTag? line = some name) :
    IsTag name.toList ∧ ∃ rest, line = name.toList ++ ':' :: rest := by
  obtain ⟨tag, rest, isTag, rfl⟩ := isHeader_of_listedTag? listed
  have same := @listedTag?_header (String.ofList tag) (by simpa using isTag) rest
  rw [String.toList_ofList, listed, Option.some.injEq] at same
  rw [same, String.toList_ofList]
  exact ⟨isTag, rest, rfl⟩

theorem after?_header_self (name : String) (rest : List Char) :
    Text.after? (name.toList ++ [':']) (name.toList ++ ':' :: rest) = some rest := by
  rw [List.append_cons name.toList ':' rest, Text.after?_append]

theorem isHeader_iff : IsHeader line ↔ (listedTag? line).isSome := by
  constructor
  · rintro ⟨tag, rest, isTag, rfl⟩
    have listed := @listedTag?_header (String.ofList tag) (by simpa using isTag) rest
    rw [String.toList_ofList] at listed
    simp [listed]
  · intro listed
    obtain ⟨name, listed⟩ := Option.isSome_iff_exists.mp listed
    exact isHeader_of_listedTag? listed

instance (line : List Char) : Decidable (IsHeader line) :=
  decidable_of_iff _ isHeader_iff.symm

theorem after?_header_of_ne {name other : String} (isTag : IsTag name.toList)
    (isTag' : IsTag other.toList) (different : name ≠ other) (rest : List Char) :
    Text.after? (other.toList ++ [':']) (name.toList ++ ':' :: rest) = none := by
  cases found : Text.after? (other.toList ++ [':']) (name.toList ++ ':' :: rest) with
  | none => rfl
  | some after =>
    have same := Text.eq_of_after? found
    have listed := listedTag?_header isTag rest
    rw [same, List.append_assoc, List.singleton_append, listedTag?_header isTag' after] at listed
    exact absurd (Option.some.inj listed).symm different

end Headers

variable {sections : List (String × String)}

theorem afterHeader?_layOut {name : String} (isTag : IsTag name.toList) {s : String × String}
    (isSection : IsSection s) (rest : List (String × String)) :
    afterHeader? name.toList (layOut (s :: rest)) =
      if s.1 = name then some (ending s.2.toList (following rest))
      else afterHeader? name.toList (layOut rest) := by
  simp only [afterHeader?, ← List.head?_filterMap,
    filterMap_lines_layOut (fun line => after?_eq_none isTag) isSection]
  split
  next same =>
    rw [layOut_cons, ← same, after?_header_self]
    rfl
  next different =>
    rw [layOut_cons, after?_header_of_ne isSection.isTag isTag different]
    rfl

theorem find_layOut (isSections : ∀ s ∈ sections, IsSection s)
    (distinct : (sections.map Prod.fst).Nodup) {s : String × String} (member : s ∈ sections) :
    find s.1.toList (layOut sections) = .template s.2.toList := by
  induction sections with
  | nil => cases member
  | cons first rest ih =>
    obtain ⟨isFirst, others⟩ := List.forall_mem_cons.mp isSections
    rw [List.map_cons, List.nodup_cons] at distinct
    have header := afterHeader?_layOut (isSections s member).isTag isFirst rest
    rcases List.mem_cons.mp member with rfl | member
    · rw [if_pos rfl] at header
      exact find_of_afterHeader? isFirst.storable header
    · have different : first.1 ≠ s.1 := by
        intro same
        exact distinct.1 (same ▸ List.mem_map_of_mem member)
      rw [if_neg different] at header
      have found := ih others distinct.2 member
      unfold find at found ⊢
      rw [header]
      exact found

theorem find_layOut_of_not_mem (isSections : ∀ s ∈ sections, IsSection s) {name : String}
    (isTag : IsTag name.toList) (other : name ∉ sections.map Prod.fst) :
    find name.toList (layOut sections) = .absent := by
  have header : afterHeader? name.toList (layOut sections) = none := by
    induction sections with
    | nil =>
      apply List.findSome?_eq_none_iff.mpr
      intro line member
      cases List.mem_singleton.mp member
      apply after?_eq_none isTag
      rintro ⟨tag, rest, -, same⟩
      exact absurd same (by simp [layOut])
    | cons first rest ih =>
      obtain ⟨isFirst, others⟩ := List.forall_mem_cons.mp isSections
      rw [List.map_cons, List.mem_cons, not_or] at other
      rw [afterHeader?_layOut isTag isFirst, if_neg (Ne.symm other.1)]
      exact ih others other.2
  simp only [find, header]

theorem listedTags_layOut (isSections : ∀ s ∈ sections, IsSection s) :
    listedTags (layOut sections) = sections.map Prod.fst := by
  induction sections with
  | nil => rfl
  | cons first rest ih =>
    obtain ⟨isFirst, others⟩ := List.forall_mem_cons.mp isSections
    have later := ih others
    unfold listedTags at later ⊢
    rw [filterMap_lines_layOut (fun _ => listedTag?_eq_none) isFirst, later, layOut_cons,
      listedTag?_header isFirst.isTag]
    rfl

end Section

section Names

theorem eraseDups_sublist (names : List String) : names.eraseDups.Sublist names := by
  induction size : names.length using Nat.strongRecOn generalizing names with
  | ind n ih =>
    cases names with
    | nil => exact .slnil
    | cons name rest =>
      rw [List.eraseDups_cons]
      have shorter := List.length_filter_le (fun other => !other == name) rest
      rw [List.length_cons] at size
      exact ((ih _ (by omega) _ rfl).trans List.filter_sublist).cons_cons name

theorem nodup_eraseDups (names : List String) : names.eraseDups.Nodup := by
  induction size : names.length using Nat.strongRecOn generalizing names with
  | ind n ih =>
    cases names with
    | nil => exact .nil
    | cons name rest =>
      rw [List.eraseDups_cons, List.nodup_cons]
      have shorter := List.length_filter_le (fun other => !other == name) rest
      rw [List.length_cons] at size
      exact ⟨by simp, ih _ (by omega) _ rfl⟩

theorem mem_sortedNames {names : List String} {name : String} :
    name ∈ sortedNames names ↔ name ∈ names := by
  rw [sortedNames, List.mem_eraseDups, List.mem_mergeSort]

theorem nodup_sortedNames (names : List String) : (sortedNames names).Nodup :=
  nodup_eraseDups _

theorem pairwise_sortedNames (names : List String) :
    (sortedNames names).Pairwise (· ≤ ·) := by
  have sorted := @List.pairwise_mergeSort _ (fun a b : String => decide (a ≤ b))
    (fun a b c => by simpa using String.le_trans) (fun a b => by simpa using String.le_total a b)
    names
  exact (sorted.sublist (eraseDups_sublist _)).imp fun le => of_decide_eq_true le

theorem pairwise_lt_sortedNames (names : List String) :
    (sortedNames names).Pairwise (· < ·) := by
  refine ((pairwise_sortedNames names).and (nodup_sortedNames names)).imp ?_
  rintro _ _ ⟨le, ne⟩
  by_contra notLess
  exact ne (String.le_antisymm le (String.not_lt.mp notLess))

end Names

namespace FileShelf

structure ReadsOnly (shelf : FileShelf) (tree : FileTree) (directory place : Path)
    (name : String) : Prop where
  many : shelf.arrangement = .manyPerFile
  directories : shelf.directories = [directory]
  opened : tree.directory? directory = some place
  visible : Path.isHidden name = false
  extension : shelf.hasExtension name = true
  offered : tree.offers (directory ++ [name]) = .ok true
  alone : ∀ stop ∈ shelf.stopsIn tree directory place, stop = .file (directory ++ [name])

variable {shelf : FileShelf} {tree : FileTree} {directory place : Path} {name : String}
  {data : List UInt8} {stamp : Int}

section Written

variable (reads : shelf.ReadsOnly tree directory place name)
  (written : tree.nodes.get? (place ++ [name]) = some (.file data stamp))
include reads written

theorem ReadsOnly.bytes : tree.bytes (directory ++ [name]) = .ok data := by
  obtain ⟨data', stamp', held, read⟩ := FileTree.exists_file_of_offers reads.offered
  obtain ⟨-, last, reached, node⟩ := FileTree.file?_eq_some_iff.mp held
  have located := (Option.filter_eq_some_iff.mp reads.opened).1
  have down : name ≠ ".." := by
    rintro rfl
    cases reads.visible
  rw [FileTree.locate_append, located, Option.bind_some, List.foldlM_cons, FileTree.enter,
    if_neg down] at reached
  cases reached
  cases written.symm.trans node
  exact read

theorem ReadsOnly.walk :
    ∃ n, shelf.walk tree = List.replicate (n + 1) (.file (directory ++ [name])) := by
  obtain ⟨data', stamp', held, -⟩ := FileTree.exists_file_of_offers reads.offered
  have unrefused := (FileTree.file?_eq_some_iff.mp held).1.of_append.unrefused
  have readable : tree.readable place = true := by
    rw [← Bool.not_eq_false]
    intro closed
    cases reads.alone _ (mem_stopsIn_iff.mpr (.inr ⟨closed, rfl⟩))
  have member : .file (directory ++ [name]) ∈ shelf.stopsIn tree directory place :=
    mem_stopsIn_iff.mpr (.inl ⟨readable, name, FileTree.mem_namesIn written, reads.visible,
      reads.extension, stop?_eq_some_iff.mpr (.inl ⟨rfl, reads.offered⟩)⟩)
  have all := List.eq_replicate_of_mem reads.alone
  cases size : (shelf.stopsIn tree directory place).length with
  | zero =>
    rw [List.length_eq_zero_iff.mp size] at member
    cases member
  | succ n =>
    rw [size] at all
    refine ⟨n, ?_⟩
    simp only [FileShelf.walk, reads.directories, List.flatMap_cons, List.flatMap_nil, unrefused,
      reads.opened, all, List.append_nil]

end Written

variable {tag text : String} {path : Path}

theorem searchSections_replicate_of_some (n : Nat)
    (held : shelf.sectionIn tree tag path = .ok (some text)) :
    (shelf.searchSections tree tag (List.replicate (n + 1) (.file path))).result = .ok path := by
  simp only [List.replicate_succ, searchSections, held]

theorem searchSections_replicate_of_none (n : Nat)
    (lacks : shelf.sectionIn tree tag path = .ok none) :
    (shelf.searchSections tree tag (List.replicate n (.file path))).result =
      .error (.unknownTag tag) := by
  induction n with
  | zero => rfl
  | succ n ih => simpa only [List.replicate_succ, searchSections, lacks] using ih

theorem collectTags_replicate (n : Nat) {tags : List String}
    (listed : shelf.tagsIn tree path = .ok tags) :
    (shelf.collectTags tree (List.replicate n (.file path))).result =
      .ok (List.replicate n tags).flatten := by
  induction n with
  | zero => rfl
  | succ n ih =>
    simp only [List.replicate_succ, collectTags, listed, ih, List.flatten_cons]
    rfl

end FileShelf

namespace Catalog

variable {library : Library} {tag body : String} {catalog : Catalog} {e : Error}

theorem exists_find_of_template (found : library.template tag = .ok body) :
    ∃ after, find library tag catalog = .ok body after := by
  apply Action.Ends.exists_ok
  apply ends_find
  · intro text source journal found' _
    exact Except.ok.inj (found'.symm.trans found)
  · intro e journal missing
    simp [missing] at found

theorem exists_find_of_missing (missing : library.template tag = .error e) :
    ∃ after, find library tag catalog = .error e after := by
  apply Action.Ends.exists_error
  apply ends_find
  · intro text source journal found _
    simp [missing] at found
  · intro e' journal missing'
    exact Except.error.inj (missing'.symm.trans missing)

theorem exists_toc {names : List String}
    (listed : (library.shelf.toc library.tree).result = .ok names) :
    ∃ after, toc library catalog = .ok names after := by
  apply Action.Ends.exists_ok
  apply ends_conclude
  · intro tags journal listed'
    exact Except.ok.inj (listed'.symm.trans listed)
  · intro e journal failed
    simp [failed] at listed

theorem exists_toc_of_refused
    (failed : (library.shelf.toc library.tree).result = .error e) :
    ∃ after, toc library catalog = .error e after := by
  apply Action.Ends.exists_error
  apply ends_conclude
  · intro tags journal listed
    simp [failed] at listed
  · intro e' journal failed'
    exact Except.error.inj (failed'.symm.trans failed)

end Catalog

section Written

variable {shelf : FileShelf} {tree : FileTree} {directory place : Path} {name : String}
  {data : List UInt8} {stamp : Int} {sections : List (String × String)}

theorem Section.unbroken_layOut (isSections : ∀ s ∈ sections, IsSection s) :
    '\r' ∉ layOut sections := by
  induction sections with
  | nil => simp [layOut]
  | cons s rest ih =>
    obtain ⟨isSection, others⟩ := List.forall_mem_cons.mp isSections
    have later : '\r' ∉ following rest := by
      cases rest with
      | nil => simp [following]
      | cons => simpa [following] using ih others
    have tag := isSection.isTag.not_mem (show Text.isWord '\r' = false by decide)
    have body := isSection.storable.unbroken
    rw [layOut_cons]
    simp [ending, terminator, tag, body, later]

/-- Templates that are written as sections of the only file of a shelf are found as they were
written, and the shelf lists their tags and has no other ones. -/
theorem Catalog.find_written (stamp : Int)
    (reads : shelf.ReadsOnly (tree.write (place ++ [name]) data stamp) directory place name)
    (isSections : ∀ s ∈ sections, Section.IsSection s)
    (distinct : (sections.map Prod.fst).Nodup)
    (encoded : shelf.encoding.encode (Section.layOut sections) = some data) (catalog : Catalog) :
    let library : Library := ⟨.files shelf, tree.write (place ++ [name]) data stamp⟩
    (∀ s ∈ sections, ∃ after, find library s.1 catalog = .ok s.2 after) ∧
    (∃ tags after, toc library catalog = .ok tags after ∧
      tags.Perm (sections.map Prod.fst) ∧ tags.Pairwise (· ≤ ·)) ∧
    ∀ tag, Section.IsTag tag.toList → tag ∉ sections.map Prod.fst →
      ∃ after, find library tag catalog = .error (.unknownTag tag) after := by
  intro library
  have written : library.tree.nodes.get? (place ++ [name]) = some (.file data stamp) :=
    Keyed.get?_put_self ..
  have decoded := Encoding.decode_of_encode (Section.unbroken_layOut isSections) encoded
  have bytes : library.tree.bytes (directory ++ [name]) = .ok data := reads.bytes written
  have content : shelf.content library.tree (directory ++ [name]) =
      .ok (Section.layOut sections) := by
    simp only [FileShelf.content, bytes, decoded]
  obtain ⟨n, walk⟩ : ∃ n, shelf.walk library.tree = _ := reads.walk written
  refine ⟨?_, ?_, ?_⟩
  · intro s member
    have held : shelf.sectionIn library.tree s.1 (directory ++ [name]) = .ok (some s.2) := by
      simp only [FileShelf.sectionIn, content, Section.find_layOut isSections distinct member,
        String.ofList_toList]
    have resolved : (shelf.resolve library.tree s.1).result = .ok (directory ++ [name]) := by
      simp only [FileShelf.resolve, reads.many, walk]
      exact FileShelf.searchSections_replicate_of_some n held
    apply exists_find_of_template
    rw [Library.template_of_files rfl resolved]
    simp only [FileShelf.read, reads.many, held]
  · have listed : shelf.tagsIn library.tree (directory ++ [name]) =
        .ok (sections.map Prod.fst) := by
      simp only [FileShelf.tagsIn, reads.many, content, ← Section.listedTags_layOut isSections]
      rfl
    have collected : (library.shelf.toc library.tree).result =
        .ok (sortedNames (List.replicate (n + 1) (sections.map Prod.fst)).flatten) := by
      simp only [library, Shelf.toc, walk, FileShelf.collectTags_replicate (n + 1) listed]
      rfl
    obtain ⟨after, answered⟩ := @exists_toc library catalog _ collected
    refine ⟨_, after, answered, ?_, pairwise_sortedNames _⟩
    rw [List.perm_ext_iff_of_nodup (nodup_sortedNames _) distinct]
    intro tag
    simp [mem_sortedNames]
  · intro tag isTag other
    have lacks : shelf.sectionIn library.tree tag (directory ++ [name]) = .ok none := by
      have missing := Section.find_layOut_of_not_mem isSections isTag other
      simp only [FileShelf.sectionIn, content, missing]
    have unresolved : (shelf.resolve library.tree tag).result = .error (.unknownTag tag) := by
      simp only [FileShelf.resolve, reads.many, walk]
      exact FileShelf.searchSections_replicate_of_none (n + 1) lacks
    apply exists_find_of_missing
    simp only [library, Library.template, Shelf.resolve, unresolved]
    rfl

end Written

def FileShelf.ofSections : FileShelf :=
  .ofParts .manyPerFile ["lib"] ".msql" .utf8

def Section.samples : List (String × String) :=
  [("egg", "x\n\n:y ;;"), ("chicken", "")]

theorem Section.isSection_of_mem_samples : ∀ s ∈ samples, IsSection s := by
  intro s member
  rcases List.mem_cons.mp member with rfl | member
  · exact ⟨by decide, by decide, by decide, by decide, by decide⟩
  · cases List.mem_singleton.mp member
    exact ⟨by decide, by decide, by decide, by decide, by decide⟩

theorem FileShelf.readsOnly_written (data : List UInt8) (stamp : Int) :
    ofSections.ReadsOnly (FileTree.empty.write ["lib", "bugs.msql"] data stamp) ["lib"] ["lib"]
      "bugs.msql" where
  many := rfl
  directories := by decide
  opened := rfl
  visible := by decide
  extension := by decide
  offered := rfl
  alone := by
    intro stop member
    have names : (FileTree.empty.write ["lib", "bugs.msql"] data stamp).namesIn ["lib"] =
        ["bugs.msql"] := rfl
    rcases mem_stopsIn_iff.mp member with ⟨-, name, here, -, -, stopped⟩ | ⟨closed, -⟩
    · rw [names, List.mem_singleton] at here
      subst here
      cases stopped
      rfl
    · cases closed

theorem FileShelf.walk_written (data : List UInt8) (stamp : Int) :
    ofSections.walk (FileTree.empty.write ["lib", "bugs.msql"] data stamp) =
      [.file ["lib", "bugs.msql"]] := by
  let tree := FileTree.empty.write ["lib", "bugs.msql"] data stamp
  have names : tree.namesIn ["lib"] = ["bugs.msql"] := rfl
  have stops : ofSections.stopsIn tree ["lib"] ["lib"] = [.file ["lib", "bugs.msql"]] := by
    rw [stopsIn, names, List.mergeSort_singleton]
    rfl
  have unrefused : tree.refusal? ["lib"] = none := rfl
  have opened : tree.directory? ["lib"] = some ["lib"] := rfl
  have directories : ofSections.directories = [["lib"]] := by decide
  change ofSections.walk tree = _
  simp only [walk, directories, List.flatMap_cons, List.flatMap_nil, unrefused, opened, stops,
    List.append_nil]

theorem FileShelf.content_written {content : List Char} (unbroken : '\r' ∉ content)
    (stamp : Int) :
    ofSections.content
        (FileTree.empty.write ["lib", "bugs.msql"] (content.flatMap String.utf8EncodeChar) stamp)
        ["lib", "bugs.msql"] = .ok content := by
  have bytes := (readsOnly_written (content.flatMap String.utf8EncodeChar) stamp).bytes
    (Keyed.get?_put_self ..)
  have encoded : ofSections.encoding.encode content =
      some (content.flatMap String.utf8EncodeChar) := rfl
  have decoded := Encoding.decode_of_encode unbroken encoded
  simp only [FileShelf.content, List.cons_append, List.nil_append] at bytes ⊢
  simp only [bytes, decoded]

def Library.holding (content : List Char) : Library where
  shelf := .files .ofSections
  tree := FileTree.empty.write ["lib", "bugs.msql"] (content.flatMap String.utf8EncodeChar) 1

section Holding

variable {content body : List Char} {tag : String} (unbroken : '\r' ∉ content)
include unbroken

theorem FileShelf.sectionIn_holding (found : Section.find tag.toList content = .template body) :
    ofSections.sectionIn (Library.holding content).tree tag ["lib", "bugs.msql"] =
      .ok (some (String.ofList body)) := by
  have read : ofSections.content (Library.holding content).tree ["lib", "bugs.msql"] =
      .ok content := content_written unbroken 1
  simp only [sectionIn, read, found]

theorem FileShelf.resolve_holding (found : Section.find tag.toList content = .template body) :
    (ofSections.resolve (Library.holding content).tree tag).result =
      .ok ["lib", "bugs.msql"] := by
  have many : ofSections.arrangement = .manyPerFile := rfl
  have walk : ofSections.walk (Library.holding content).tree = [.file ["lib", "bugs.msql"]] :=
    walk_written _ 1
  simp only [resolve, many, walk, searchSections, sectionIn_holding unbroken found]

theorem Library.template_holding (found : Section.find tag.toList content = .template body) :
    (Library.holding content).template tag = .ok (String.ofList body) := by
  have many : FileShelf.ofSections.arrangement = .manyPerFile := rfl
  rw [template_of_files rfl (FileShelf.resolve_holding unbroken found)]
  simp only [FileShelf.read, many, FileShelf.sectionIn_holding unbroken found]

theorem Library.toc_holding :
    ((Library.holding content).shelf.toc (Library.holding content).tree).result =
      .ok (sortedNames (Section.listedTags content)) := by
  have shelf : (Library.holding content).shelf = .files .ofSections := rfl
  have many : FileShelf.ofSections.arrangement = .manyPerFile := rfl
  have walk : FileShelf.ofSections.walk (Library.holding content).tree =
      [.file ["lib", "bugs.msql"]] := FileShelf.walk_written _ 1
  have read : FileShelf.ofSections.content (Library.holding content).tree ["lib", "bugs.msql"] =
      .ok content := FileShelf.content_written unbroken 1
  simp only [shelf, Shelf.toc, walk, FileShelf.collectTags, FileShelf.tagsIn, many, read,
    Functor.map, Except.map, List.append_nil]

end Holding

theorem Catalog.find_written_samples :
    let data := (Section.layOut Section.samples).flatMap String.utf8EncodeChar
    let tree := FileTree.empty.write ["lib", "bugs.msql"] data 1
    let library : Library := ⟨.files .ofSections, tree⟩
    FileShelf.ofSections.ReadsOnly tree ["lib"] ["lib"] "bugs.msql" ∧
    (∀ s ∈ Section.samples, Section.IsSection s) ∧
    (Section.samples.map Prod.fst).Nodup ∧
    FileShelf.ofSections.encoding.encode (Section.layOut Section.samples) = some data ∧
    (∀ s ∈ Section.samples, ∃ after, find library s.1 ⟨[], []⟩ = .ok s.2 after) ∧
    (∃ tags after, toc library ⟨[], []⟩ = .ok tags after ∧
      tags.Perm (Section.samples.map Prod.fst) ∧ tags.Pairwise (· ≤ ·)) ∧
    ∀ tag, Section.IsTag tag.toList → tag ∉ Section.samples.map Prod.fst →
      ∃ after, find library tag ⟨[], []⟩ = .error (.unknownTag tag) after := by
  intro data tree library
  have reads := FileShelf.readsOnly_written data 1
  have isSections := Section.isSection_of_mem_samples
  have distinct : (Section.samples.map Prod.fst).Nodup := by decide
  have encoded : FileShelf.ofSections.encoding.encode (Section.layOut Section.samples) =
      some data := rfl
  exact ⟨reads, isSections, distinct, encoded,
    @Catalog.find_written _ .empty ["lib"] ["lib"] "bugs.msql" _ _ 1 reads isSections distinct
      encoded ⟨[], []⟩⟩

end QueryBook
