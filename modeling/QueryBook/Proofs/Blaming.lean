import QueryBook.Proofs.Escaping
import QueryBook.Proofs.Terminators

set_option autoImplicit false

namespace QueryBook

open QueryBook.Action Compiler

namespace Library

def HasNone (library : Library) (tag : String) : Prop :=
  match library.shelf with
  | .memory shelf => shelf.templates.get? tag = none
  | .files shelf => ∀ path ∈ shelf.places library.tree tag, shelf.Lacks library.tree tag path

inductive AtFault (library : Library) (tag : String) : Error → Prop where
  | missing (none : library.HasNone tag) : AtFault library tag (.unknownTag tag)
  | noFile {extension : String} (none : library.HasNone tag) :
    AtFault library tag (.noFile tag extension)
  | unterminated {shelf : FileShelf} {path : Path} {content rest : List Char}
      (files : library.shelf = .files shelf) (among : path ∈ shelf.places library.tree tag)
      (read : shelf.content library.tree path = .ok content)
      (header : Section.afterHeader? tag.toList content = some rest)
      (unended : ¬ Section.terminator <:+: rest) :
    AtFault library tag (.unterminated tag path.text)
  | selectMode {block mode : String} (held : library.HasBlock tag block)
      (plain : Template.includedTag block = .ok none)
      (unknown : StatementKind.classify block = .error (.selectMode mode block none)) :
    AtFault library tag (.selectMode mode block (some tag))
  | malformed {block : String} (held : library.HasBlock tag block)
      (malformed : Template.includedTag block = .error (.malformedInclude block none)) :
    AtFault library tag (.malformedInclude block (some tag))
  | cyclic {front : List String} (met : tag ∈ front) :
    AtFault library tag (.includeCycle (front ++ [tag]))
  | deep {limit : Nat} {front : List String} :
    AtFault library tag (.includeDepth limit (front ++ [tag]))

variable {library : Library} {shelf : FileShelf} {tag : String} {path : Path} {e : Error}

theorem AtFault.tag_fact (atFault : library.AtFault tag e) :
    e.report.facts.get? "tag" = some (.text tag) := by
  cases atFault with
  | cyclic => simp [Error.report, Report.includeCycle, Report.optional, Keyed.get?]
  | deep => simp [Error.report, Report.includeCycle, Report.optional, Keyed.get?]
  | _ => rfl

theorem AtFault.blame (atFault : library.AtFault tag e) (other : String) : e.blame other = e := by
  cases atFault <;> rfl

def Answers (library : Library) (e : Error) : Prop :=
  e.kind.isCompile = true → ∃ tag, library.AtFault tag e

theorem answers_of_not_compile (other : e.kind.isCompile = false) : library.Answers e := by
  intro compiles
  simp [other] at compiles

theorem Answers.blame (tag : String) (answers : library.Answers e) :
    library.Answers (e.blame tag) := by
  intro compiles
  rw [Error.kind_blame] at compiles
  obtain ⟨other, atFault⟩ := answers compiles
  exact ⟨other, by rwa [atFault.blame]⟩

-- A file that the search has been offered is there to be read.
theorem answers_of_content (offered : library.tree.offers path = .ok true)
    (unread : shelf.content library.tree path = .error e) : library.Answers e := by
  obtain ⟨data, stamp, -, read⟩ := FileTree.exists_file_of_offers offered
  simp only [FileShelf.content, read] at unread
  split at unread <;> cases unread
  exact answers_of_not_compile rfl

theorem answers_of_read (found : (shelf.resolve library.tree tag).result = .ok path)
    (failed : shelf.read library.tree tag path = .error e) : library.Answers e := by
  unfold FileShelf.read at failed
  split at failed
  next => exact answers_of_content (FileShelf.offers_of_resolve found) (eq_error_of_map failed)
  next many =>
    simp only [FileShelf.resolve, many] at found
    obtain ⟨text, held⟩ := FileShelf.exists_of_searchSections found
    simp only [held] at failed
    cases failed

section Missing

variable (files : library.shelf = .files shelf)
include files

theorem answers_of_sectionIn (many : shelf.arrangement = .manyPerFile)
    (met : .file path ∈ shelf.walk library.tree)
    (broken : shelf.sectionIn library.tree tag path = .error e) : library.Answers e := by
  cases read : shelf.content library.tree path with
  | error e' =>
    obtain rfl : e' = e := by simpa [FileShelf.sectionIn, read] using broken
    exact answers_of_content (FileShelf.offers_of_mem_walk met) read
  | ok content =>
    obtain ⟨rfl, rest, header, unended⟩ := FileShelf.sectionIn_eq_error broken read
    have among : path ∈ shelf.places library.tree tag := by
      simp only [FileShelf.places, many]
      exact FileShelf.mem_filterMap_path? met
    exact fun _ => ⟨tag, .unterminated files among read header unended⟩

theorem answers_of_searchNames (one : shelf.arrangement = .onePerFile)
    (failed : shelf.searchNames library.tree tag = .error e) : library.Answers e := by
  have none (lacks : ∀ path ∈ shelf.places library.tree tag,
      library.tree.offers path = .ok false) : library.HasNone tag := by
    simpa only [HasNone, files, FileShelf.Lacks, one] using lacks
  simp only [FileShelf.places, one] at none
  unfold FileShelf.searchNames at failed
  split at failed
  next unusable =>
    cases failed
    exact fun _ => ⟨tag, .missing (none (by simp [unusable]))⟩
  next usable =>
    rcases FileShelf.firstOffered_cases library.tree (.noFile tag shelf.extension)
        (shelf.directories.map (· ++ shelf.pathTo tag)) with
      ⟨_, _, _, -, -, ⟨-, found⟩ | ⟨fault, -, refused⟩⟩ | ⟨lacks, missing⟩
    · cases failed.symm.trans found
    · cases failed.symm.trans refused
      exact answers_of_not_compile rfl
    · cases failed.symm.trans missing
      exact fun _ => ⟨tag, .noFile (none (by rwa [if_neg usable]))⟩

theorem answers_of_searchSections (many : shelf.arrangement = .manyPerFile)
    (failed : (shelf.searchSections library.tree tag (shelf.walk library.tree)).result =
      .error e) : library.Answers e := by
  cases FileShelf.searchSections_failed failed with
  | absent lacks admits =>
    refine fun _ => ⟨tag, .missing ?_⟩
    simp only [HasNone, files, FileShelf.Lacks, FileShelf.places, many]
    intro path among
    obtain ⟨stop, met, same⟩ := List.mem_filterMap.mp among
    cases stop with
    | missing directory => cases same
    | file path =>
      cases same
      exact lacks path met
    | refused path fault => exact absurd met (admits path fault)
  | broken met broken => exact answers_of_sectionIn files many met broken
  | refused met => exact answers_of_not_compile rfl

theorem answers_of_resolve (failed : (shelf.resolve library.tree tag).result = .error e) :
    library.Answers e := by
  unfold FileShelf.resolve at failed
  split at failed
  next one => exact answers_of_searchNames files one failed
  next many => exact answers_of_searchSections files many failed

end Missing

theorem answers_of_template (failed : library.template tag = .error e) : library.Answers e := by
  cases kind : library.shelf with
  | memory shelf =>
    rw [template_of_memory kind] at failed
    split at failed
    next => cases failed
    next none =>
      cases failed
      refine fun _ => ⟨tag, .missing ?_⟩
      simpa only [HasNone, kind] using none
  | files shelf =>
    cases found : (shelf.resolve library.tree tag).result with
    | ok path =>
      rw [template_of_files kind found] at failed
      exact answers_of_read found failed
    | error e' =>
      rw [template_of_unresolved kind found] at failed
      cases failed
      exact answers_of_resolve kind found

end Library

section Runs

variable {σ : Type} {c : Compiler σ}

theorem foresees_answers (blames : c.connection.BlamesNoTemplate) :
    c.Foresees (fun _ => True) c.library.Answers where
  inward := fun _ _ => trivial
  missing := fun _ => Library.answers_of_template
  malformed := by
    intro tag block e _ held malformed _
    obtain rfl := Template.eq_malformedInclude malformed
    exact ⟨tag, .malformed held malformed⟩
  cyclic := fun _ _ _ _ met _ => ⟨_, .cyclic met⟩
  statement := by
    intro tag block _ held plain desk
    apply @ends_makeStatement_bad _ _ fun e => c.library.Answers (e.blame tag)
    · intro e failed _
      obtain ⟨mode, rfl, unknown⟩ := Statement.selectMode_of_draft failed
      exact ⟨tag, .selectMode held plain unknown⟩
    · exact fun sql f raised =>
        (Library.answers_of_not_compile ((raised.late sql).not_compile blames)).blame tag
    · exact fun _ _ _ _ _ => Library.answers_of_not_compile rfl
  blame := fun tag => Library.Answers.blame tag

-- A run adds the errors of the stack to those of the compiler, each with the tag it ends with.
def answeringTour (m : c.Making) (blames : c.connection.BlamesNoTemplate) :
    Call.Tour m (fun _ => True) c.library.Answers where
  Holds := fun _ => True
  Enters := fun _ _ => True
  Ran := fun _ _ => True
  kept := fun _ _ => trivial
  fine := fun _ => trivial
  cyclic := fun _ met _ => ⟨_, .cyclic met⟩
  deep := fun _ _ _ _ => ⟨_, .deep⟩
  late := fun _ late => Library.answers_of_not_compile (late.not_compile blames)
  inward := fun _ _ _ _ _ => trivial
  ran := fun _ _ _ => trivial

end Runs

namespace Book

variable {σ : Type}

/-- An error about a template that leaves a call, whatever has been cached before and wherever in
the includes it comes from, names the tag that is at fault. -/
theorem atFault_of_failed (setup : Setup σ) (blames : setup.connection.BlamesNoTemplate)
    (book : Book σ) {e : Error}
    (failed : (∃ tags t, prepare setup tags book = .error e t) ∨
      ∃ tag data t, Turn.execute setup tag ⟨book, data⟩ = .error e t)
    (compiles : e.kind.isCompile = true) :
    ∃ tag, book.library.AtFault tag e ∧ e.report.facts.get? "tag" = some (.text tag) := by
  let m := (setup.compiler book.library).classifying
  have foreseen := foresees_answers (c := setup.compiler book.library) blames
  have answers : book.library.Answers e := by
    rcases failed with ⟨tags, t, failed⟩ | ⟨tag, data, t, failed⟩
    · exact (ends_prepare_bad foreseen (Library.answers_of_not_compile rfl)
        fun _ _ => trivial).of_error failed
    · exact Turn.bad_of_execute (Connection.MovesBy.any setup.connection).toWorksBy foreseen
        (answeringTour m blames) rfl trivial trivial trivial failed
  obtain ⟨tag, atFault⟩ := answers compiles
  exact ⟨tag, atFault, atFault.tag_fact⟩

-- The chicken is fine; the egg that it includes has a query of a mode that there is not.
def rottenBook : Book Nat :=
  inMemory [("chicken", "include egg"), ("egg", "select! x")] .empty ⟨1, []⟩ true

theorem statements_rotten : Template.statements "select! x" = ["select! x"] := by
  rw [Template.statements_of_line (by decide) (by decide)]
  decide

theorem ends_compileUnder_rotten {c : Compiler σ} {path : List String} (fresh : "egg" ∉ path)
    (rotten : c.library.template "egg" = .ok "select! x") (desk : Desk σ) :
    Ends (c.compileUnder path "egg" fresh) desk (fun _ _ => False)
      (fun e _ => e = .selectMode "!" "select! x" (some "egg")) := by
  rw [compileUnder_eq, ends_bind, Desk.ends_onCatalog]
  apply Catalog.ends_find
  · intro body source journal found _
    obtain rfl : body = "select! x" := Except.ok.inj (found.symm.trans rotten)
    have unknown : StatementKind.classify "select! x" =
        .error (.selectMode "!" "select! x" none) := rfl
    simp only [compileBody, statements_rotten, List.mapM_cons, List.mapM_nil, ends_bind,
      Desk.ends_onCatalog, Catalog.note, ends_modify, ends_mapError, makeStatement,
      compileBlock_of_statement (show Template.includedTag "select! x" = .ok none from rfl),
      ends_map, Desk.ends_onConn, Statement.create, unknown, ends_ofExcept]
    rfl
  · intro e journal missing
    cases rotten.symm.trans missing

theorem exists_prepare_rotten :
    ∃ t, prepare limitedSetup ["chicken"] rottenBook =
      .error (.selectMode "!" "select! x" (some "egg")) t := by
  have chicken : rottenBook.library.template "chicken" = .ok "include egg" := rfl
  have connected : rottenBook.connected = true := rfl
  have empty : rottenBook.cache = [] := rfl
  apply Ends.exists_error
  simp only [prepare, ends_bind, ends_ensureConnected, connected, if_true]
  change Ends (prepareTag limitedSetup "chicken" >>= fun _ => pure ()) rottenBook _ _
  simp only [prepareTag, lookup, ends_bind, ends_library?, ends_onCatalog]
  apply Catalog.ends_lookup
  intro journal
  simp only [empty, Library.chain?_nil, compile, Compiler.compile, compileUnder_eq, ends_discard,
    ends_bind, ends_ensureConnected, connected, if_true, ends_library?, ends_onDesk,
    Desk.ends_onCatalog]
  apply Catalog.ends_find
  · intro body source journal found _
    obtain rfl : body = "include egg" := Except.ok.inj (found.symm.trans chicken)
    simp only [compileBody, statements_egg, List.mapM_cons, List.mapM_nil, ends_bind,
      Desk.ends_onCatalog, Catalog.note, ends_modify, ends_mapError, compileBlock, ends_ofExcept,
      show Template.includedTag "include egg" = .ok (some "egg") from rfl]
    rw [dif_neg (by decide)]
    simp only [ends_bind, Desk.ends_onCatalog]
    apply Catalog.ends_lookup
    intro journal
    have unmade := Library.chain?_found rottenBook.library [] "chicken" "egg" source
    rw [if_neg (by decide), Library.chain?_nil] at unmade
    have library : (limitedSetup.compiler rottenBook.library).library = rottenBook.library := rfl
    simp only [library, unmade, ends_bind, ends_discard]
    apply (ends_compileUnder_rotten _ rfl _).imp
    · exact fun _ _ no => no.elim
    · rintro _ _ rfl
      rfl
  · intro e journal missing
    cases chicken.symm.trans missing

theorem atFault_of_rottenBook :
    limitedSetup.connection.BlamesNoTemplate ∧
    ∃ e, (∃ t, prepare limitedSetup ["chicken"] rottenBook = .error e t) ∧
      e.kind.isCompile = true ∧ rottenBook.library.AtFault "egg" e := by
  obtain ⟨t, failed⟩ := exists_prepare_rotten
  obtain ⟨tag, atFault, named⟩ :=
    atFault_of_failed limitedSetup blamesNoTemplate_limited rottenBook (.inl ⟨_, t, failed⟩) rfl
  obtain rfl : "egg" = tag := by
    simpa [Error.report, Report.selectMode, Keyed.get?, Report.optional] using named
  exact ⟨blamesNoTemplate_limited, _, ⟨t, failed⟩, rfl, atFault⟩

end Book

end QueryBook
