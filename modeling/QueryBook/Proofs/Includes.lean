import QueryBook.Proofs.Counting
import QueryBook.Proofs.Editing
import QueryBook.Proofs.Joining
import QueryBook.Proofs.Settling
import QueryBook.Proofs.Transparency

set_option autoImplicit false

namespace QueryBook

open QueryBook.Action Connection

namespace Book

variable {σ : Type} {setup : Setup σ} {book : Book σ}

def inMemory (templates : List (String × String)) (tree : FileTree) (link : Link σ)
    (autocommit : Bool) : Book σ where
  cache := []
  journal := link.journal
  conn := link.conn
  library := ⟨.memory (.ofList templates), tree⟩
  connected := true
  autocommit

def Reached (setup : Setup σ) (book : Book σ) : Prop :=
  ∃ templates tree link autocommit uses,
    book = after setup (inMemory templates tree link autocommit) uses

theorem stocked_inMemory (steady : setup.connection.ByText) (templates : List (String × String))
    (tree : FileTree) (link : Link σ) (autocommit : Bool) :
    Stocked steady (inMemory templates tree link autocommit) :=
  Compiler.Stocked.empty ⟨_, rfl, MemoryShelf.dated_ofList templates⟩ rfl

theorem Reached.upheld_of {making : ∀ library, (setup.compiler library).Making}
    (reached : Reached setup book)
    (moved : ∀ library, setup.connection.MovesBy (making library).Moves)
    (known : ∀ library later, (making library).Known = (making later).Known) :
    Upheld making book := by
  obtain ⟨templates, tree, link, autocommit, uses, rfl⟩ := reached
  have first : Upheld making (inMemory templates tree link autocommit) :=
    ⟨⟨_, rfl, MemoryShelf.dated_ofList templates, Cache.dated_nil _⟩, Compiler.kept_of_fresh rfl⟩
  exact upheld_after moved known first uses

theorem Reached.stocked (reached : Reached setup book) (steady : setup.connection.ByText) :
    Stocked steady book := by
  have upheld : Upheld (fun library => (setup.compiler library).working steady) book :=
    reached.upheld_of (fun _ => steady.keeps) fun _ _ => rfl
  exact ⟨upheld.1, upheld.2⟩

def watched (book : Book σ) : Book (Recorded σ) where
  cache := book.cache
  journal := book.journal
  conn := ⟨book.conn, []⟩
  library := book.library
  connected := book.connected
  autocommit := book.autocommit

variable {steady : setup.connection.ByText}

theorem kept_watched (stocked : Stocked steady book) :
    Compiler.Kept ((setup.recorded.compiler book.library).quiet steady.recorded)
      book.watched.toDesk := by
  intro tag chain counts
  apply (stocked.kept tag chain counts).imp
  intro block st known
  obtain ⟨made, accepts⟩ := known
  refine ⟨?_, accepts⟩
  cases made with
  | late drafted directs => exact .late drafted directs
  | early drafted plain prepared => exact .early drafted plain prepared

theorem sound_of_compile (steady : setup.connection.ByText) {tag : String} {n : Nat}
    (within : book.library.Within n tag)
    (compiles : ∀ inner, Relation.ReflTransGen book.library.Includes tag inner →
      ∃ chain t, compile setup inner book = .ok chain t) :
    book.connected = true ∧
      book.library.Sound ((setup.compiler book.library).Accepts steady) tag := by
  have made (inner : String) (reaches : Relation.ReflTransGen book.library.Includes tag inner) :
      book.connected = true ∧
        ∃ chain t, (setup.compiler book.library).compile inner book.toDesk = .ok chain t := by
    obtain ⟨chain, t, compiled⟩ := compiles inner reaches
    have ends : Ends (compile setup inner) book (fun _ _ => book.connected = true ∧
        ∃ chain t, (setup.compiler book.library).compile inner book.toDesk = .ok chain t)
        (fun _ _ => True) := by
      simp only [compile, ends_bind, ends_ensureConnected, ends_library?, ends_onDesk]
      split
      next up =>
        exact (ends_self _ _).imp (fun chain t made => ⟨up, chain, t, made⟩) fun _ _ _ => trivial
      next => trivial
    exact ends.of_ok compiled
  have sound := Compiler.sound_of_compiles (c := setup.compiler book.library) steady within
    fun inner reaches => (made inner reaches).2
  exact ⟨(made tag .refl).1, sound⟩

end Book

namespace Turn

variable {σ : Type} {setup : Setup σ} {tag : String} {texts : List String}

theorem ends_executeTexts_counted {steady : setup.connection.ByText} {library : Library}
    (accepts : ∀ text ∈ texts, (setup.compiler library).Accepts steady text)
    (turn : Turn (Recorded σ)) :
    Ends (executeTexts setup.recorded tag texts) turn
      (fun n t => ∃ answers, t.conn.answers = turn.conn.answers ++ answers ∧
        answers.length = texts.length ∧ n = Statement.total texts answers)
      (fun _ _ => True) := by
  simp only [executeTexts, ends_bind, ends_rescue, onStage, ends_focus]
  have accepts' : ∀ text ∈ texts, (setup.recorded.compiler library).Accepts steady.recorded text :=
    accepts
  apply (ends_createAll accepts').imp
  · intro statements _ ended
    obtain ⟨⟨conn, rfl, alike⟩, made⟩ := ended
    have before : conn.answers = turn.conn.answers :=
      congrArg (List.filterMap Effect.answer?) alike.2.symm
    have classified : List.Forall₂
        (fun text st => ∃ sql, StatementKind.classify text = .ok (st.kind, sql)) texts
        statements := by
      apply made.imp
      intro text st made
      cases made with
      | late drafted => exact Statement.classify_of_draft drafted
      | early drafted =>
        obtain ⟨sql, classified⟩ := Statement.classify_of_draft drafted
        exact ⟨sql, classified⟩
    apply (Statement.ends_runAll_counted classified _).imp
    · intro n t ended
      obtain ⟨answers, answered, sameLength, counted⟩ := ended
      have counts : (setStage { turn with conn } t).conn.answers = turn.conn.answers ++ answers :=
        answered.trans (congrArg (· ++ answers) before)
      simp only [ends_get]
      split
      · have committed : Ends (onBook (Book.commit setup.recorded)) (setStage { turn with conn } t)
            (fun _ u => u.conn.answers = turn.conn.answers ++ answers) (fun _ _ => True) := by
          simp only [Book.commit, ends_onBook, ends_bind, Book.ends_note, Book.ends_ensureConnected,
            Book.ends_ask, Setup.recorded, recorded, ends_record, answers_append]
          split
          · exact (ends_self _ _).imp (fun _ _ _ => (List.append_nil _).trans counts)
              fun _ _ _ => trivial
          · trivial
        simp only [ends_bind, ends_pure]
        exact committed.imp (fun _ _ same => ⟨answers, same, sameLength, counted⟩)
          fun _ _ _ => trivial
      · exact ⟨answers, counts, sameLength, counted⟩
    · exact fun e t _ => (ends_abandon_fails setup.recorded tag e _).imp (fun _ _ no => no.elim)
        fun _ _ _ => trivial
  · exact fun _ _ no => no.elim

/-- Includes are transparent: a run of a tag does what a run of the flat list of its statements does. -/
theorem execute_flat (steady : setup.connection.ByText) {book : Book σ}
    (reached : Book.Reached setup book) (data : Fields)
    (compiles : ∀ inner, Relation.ReflTransGen book.library.Includes tag inner →
      ∃ chain t, Book.compile setup inner book = .ok chain t)
    (bounded : ∀ walk, (tag :: walk).IsChain book.library.Includes →
      (tag :: walk).length ≤ setup.maxDepth) :
    ∃ texts, (∀ others, book.library.FlatOf tag others ↔ others = texts) ∧
      Agree (execute setup.recorded tag) ⟨book.watched, data⟩
        (executeTexts setup.recorded tag texts) ⟨book.watched, data⟩
        (fun n t m u => n = m ∧ t.data = u.data ∧ t.conn.effects = u.conn.effects ∧
          t.conn.answers.length = texts.length ∧ n = Statement.total texts t.conn.answers)
        (fun e t e' u => e = e' ∧ t.data = u.data ∧ t.conn.effects = u.conn.effects) := by
  have within := Library.within_iff.mpr bounded
  obtain ⟨up, sound⟩ := Book.sound_of_compile steady within compiles
  obtain ⟨texts, flat⟩ := sound.exists_flat
  refine ⟨texts, fun others => ⟨flat.unique, fun same => same ▸ flat⟩, ?_⟩
  have enough : setup.maxDepth - 1 + 1 = setup.maxDepth := by
    have := bounded [] (.singleton tag)
    simp only [List.length_singleton] at this
    omega
  let steady' : setup.recorded.connection.ByText := steady.recorded
  have abreast : Abreast steady' ⟨book.watched, data⟩ ⟨book.watched, data⟩ :=
    ⟨steady'.alike.refl _, rfl, rfl, rfl⟩
  have agree := agree_executeTexts abreast up (Book.kept_watched (reached.stocked steady))
    (enough ▸ within) sound flat
  apply (agree.and_right (ends_executeTexts_counted (sound.fine_of_flat flat) _)).imp
  · intro n t _ u ended
    obtain ⟨⟨rfl, alike, data, -, -⟩, answers, answered, sameLength, counted⟩ := ended
    have same : t.conn.effects = u.conn.effects := alike.2
    have answered : t.conn.answers = answers := by
      rw [Recorded.answers, same]
      exact answered
    exact ⟨rfl, data, same, answered ▸ sameLength, answered ▸ counted⟩
  · intro e t _ u failed
    obtain ⟨⟨rfl, alike, data, -, -⟩, -⟩ := failed
    exact ⟨rfl, data, alike.2⟩

end Turn

namespace Book

def silentSetup : Setup Script.Played where
  connection := Script.playing .empty .question
  placement := .plain
  style := none
  warnBareColumns := false
  dialect := none
  parse := fun _ _ => .other
  maxDepth := 2

def nestedBook : Book Script.Played :=
  inMemory [("outer", "include inner"), ("inner", "x")] .empty ⟨⟨[], []⟩, []⟩ true

theorem accepts_inner :
    (silentSetup.compiler .nested).Accepts (Script.byText _ _) "x" :=
  ⟨_, rfl, fun _ => rfl, fun looked => by cases looked⟩

theorem compile_nested (inner : String)
    (reaches : Relation.ReflTransGen nestedBook.library.Includes "outer" inner) :
    ∃ chain t, compile silentSetup inner nestedBook = .ok chain t := by
  have sound : Library.nested.Sound
      ((silentSetup.compiler .nested).Accepts (Script.byText _ _)) inner :=
    (Library.sound_nested accepts_inner).of_reflTransGen reaches
  have ends : Ends (compile silentSetup inner) nestedBook (fun _ _ => True) (fun _ _ => False) := by
    simp only [compile, ends_bind, ends_ensureConnected, ends_library?, ends_onDesk]
    apply (Compiler.ends_compile ((silentSetup.compiler .nested).quiet (Script.byText _ _))
      (Compiler.foresees_of_accepts _ _) inner sound _).imp
    · exact fun _ _ _ => trivial
    · exact fun _ _ failed => failed.2
  cases made : compile silentSetup inner nestedBook with
  | ok chain t => exact ⟨chain, t, rfl⟩
  | error e t => exact (ends.of_error made).elim

end Book

namespace Turn

theorem execute_nested_flat :
    Book.Reached Book.silentSetup Book.nestedBook ∧
    (∀ inner, Relation.ReflTransGen Book.nestedBook.library.Includes "outer" inner →
      ∃ chain t, Book.compile Book.silentSetup inner Book.nestedBook = .ok chain t) ∧
    (∀ walk, ("outer" :: walk).IsChain Book.nestedBook.library.Includes →
      ("outer" :: walk).length ≤ Book.silentSetup.maxDepth) ∧
    ∃ texts, (∀ others, Book.nestedBook.library.FlatOf "outer" others ↔ others = texts) ∧
      Agree (execute Book.silentSetup.recorded "outer") ⟨Book.nestedBook.watched, []⟩
        (executeTexts Book.silentSetup.recorded "outer" texts) ⟨Book.nestedBook.watched, []⟩
        (fun n t m u => n = m ∧ t.data = u.data ∧ t.conn.effects = u.conn.effects ∧
          t.conn.answers.length = texts.length ∧ n = Statement.total texts t.conn.answers)
        (fun e t e' u => e = e' ∧ t.data = u.data ∧ t.conn.effects = u.conn.effects) := by
  have reached : Book.Reached Book.silentSetup Book.nestedBook := ⟨_, _, _, _, [], rfl⟩
  have bounded := Library.within_iff.mp (Library.within_nested 0)
  exact ⟨reached, Book.compile_nested, bounded,
    execute_flat (Script.byText _ _) reached [] Book.compile_nested bounded⟩

end Turn

-- Once a statement has been executed, this connection prepares no other text.
def Connection.locking : Connection Bool :=
  { Connection.willing with
    prepare := fun sql _ locked =>
      if locked then .error (.foreign "OperationalError" "the database is locked") locked
      else .ok ⟨0, sql⟩ locked
    execute := fun _ _ _ => .ok (some 1) true }

namespace Library

def parted : Library where
  shelf := .memory (.ofList [("outer", "x\n\ninclude inner"), ("inner", "x")])
  tree := .empty

theorem statements_parted : Template.statements "x\n\ninclude inner" = ["x", "include inner"] := by
  have joined := Template.statements_append "x" "include inner"
  rwa [statements_inner, statements_outer] at joined

theorem includes_parted {tag inner : String} (includes : parted.Includes tag inner) :
    tag = "outer" ∧ inner = "inner" := by
  obtain ⟨block, ⟨body, found, member⟩, named⟩ := includes
  by_cases outer : tag = "outer"
  · subst outer
    cases found
    simp only [statements_parted, List.mem_cons, List.not_mem_nil, or_false] at member
    rcases member with rfl | rfl
    · cases named
    · cases named
      exact ⟨rfl, rfl⟩
  · by_cases inner : tag = "inner"
    · subst inner
      cases found
      rw [statements_inner, List.mem_singleton] at member
      subst member
      cases named
    · simp [template, parted, Shelf.resolve, MemoryShelf.ofList, MemoryShelf.empty, MemoryShelf.add,
        Keyed.put, Keyed.get?, Ne.symm outer, Ne.symm inner] at found

theorem within_parted : parted.Within 2 "outer" := by
  intro inner includes inner' includes'
  obtain ⟨-, rfl⟩ := includes_parted includes
  exact absurd (includes_parted includes').1 (by decide)

theorem eq_of_reaches_parted {tag : String}
    (reaches : Relation.ReflTransGen parted.Includes "outer" tag) :
    tag = "outer" ∨ tag = "inner" := by
  cases reaches with
  | refl => exact .inl rfl
  | tail _ includes => exact .inr (includes_parted includes).2

theorem flatOf_parted : parted.FlatOf "outer" ["x", "x"] := by
  have inner : parted.Flattens (Template.statements "x") ["x"] := by
    rw [statements_inner]
    exact .statement rfl .nil
  refine ⟨_, rfl, ?_⟩
  rw [statements_parted]
  exact .statement rfl (.inclusion rfl rfl inner .nil)

end Library

namespace Book

def lockingSetup : Setup Bool where
  connection := .locking
  placement := .plain
  style := none
  warnBareColumns := false
  dialect := none
  parse := fun _ _ => .other
  maxDepth := 2

def partedBook (desk : Desk Bool) : Book Bool where
  toDesk := desk
  library := .parted
  connected := true
  autocommit := true

def lockingStatement : Statement :=
  let marked := MarkedText.ofText .question "x"
  ⟨"x", .mutation, marked, .plain, some ⟨0, marked.sql⟩⟩

theorem ends_makeStatement_unlocked (tag : String) (catalog : Catalog) :
    Ends ((lockingSetup.compiler .parted).makeStatement tag "x") ⟨catalog, false⟩
      (fun st t => st = lockingStatement ∧ t = ⟨catalog, false⟩) (fun _ _ => False) := by
  apply Compiler.ends_makeStatement_plain tag rfl
  exact ⟨rfl, rfl⟩

theorem ends_compileUnder_unlocked (path : List String) (fresh : "inner" ∉ path)
    (catalog : Catalog) :
    Ends ((lockingSetup.compiler .parted).compileUnder path "inner" fresh) ⟨catalog, false⟩
      (fun _ t => t.conn = false ∧ t.cache.get? "outer" = catalog.cache.get? "outer")
      (fun _ _ => False) := by
  have compiled := @Compiler.ends_compileUnder_single _ (lockingSetup.compiler .parted)
    "inner" "x" rfl Library.statements_inner rfl path fresh ⟨catalog, false⟩
    (fun _ conn => conn = false) (fun _ _ => False) fun catalog =>
      (ends_makeStatement_unlocked "inner" catalog).imp
        (fun _ _ ended => by rw [ended.2]; exact ⟨rfl, rfl⟩) fun _ _ no => no.elim
  apply compiled.imp
  · intro chain t ended
    obtain ⟨⟨_, -, left⟩, source, -, cached⟩ := ended
    have other : "outer" ≠ "inner" := by decide
    exact ⟨left, by rw [cached, Keyed.get?_put_of_ne _ _ other, Keyed.get?_put_of_ne _ _ other]⟩
  · exact fun _ _ failed => failed.1

theorem ends_compile_parted (catalog : Catalog) :
    Ends ((lockingSetup.compiler .parted).compile "outer") ⟨catalog, false⟩
      (fun _ t => t.conn = false ∧ Library.parted.chain? t.cache "outer" =
        some ⟨"outer", [.statement lockingStatement, .inclusion "inner"]⟩)
      (fun _ _ => False) := by
  rw [Compiler.compile, Compiler.compileUnder_eq, ends_bind, Desk.ends_onCatalog]
  apply Catalog.ends_find
  · intro body source journal found resolved
    obtain rfl : body = "x\n\ninclude inner" := by
      have held : Library.parted.template "outer" = .ok "x\n\ninclude inner" := rfl
      exact Except.ok.inj (found.symm.trans held)
    have plain : Template.includedTag "x" = .ok none := rfl
    have named : Template.includedTag "include inner" = .ok (some "inner") := rfl
    simp only [Compiler.compileBody, Library.statements_parted, List.mapM_cons, List.mapM_nil,
      ends_bind, Desk.ends_onCatalog, Catalog.note, ends_modify, ends_mapError, ends_pure,
      Compiler.compileBlock_of_statement plain, ends_map]
    apply (ends_makeStatement_unlocked "outer" _).imp
    · rintro _ _ ⟨rfl, rfl⟩
      have stores {t : Desk Bool} (left : t.conn = false) (held : t.cache.get? "outer" =
          some ⟨source, Library.parted.fingerprint source, none⟩) :
          let chain : Chain := ⟨"outer", [.statement lockingStatement, .inclusion "inner"]⟩
          Ends (Catalog.store .parted "outer" chain) t.toCatalog
            (fun _ catalog => t.conn = false ∧
              Library.parted.chain? catalog.cache "outer" = some chain) (fun _ _ => False) := by
        refine Catalog.ends_store held fun _ => ⟨left, ?_⟩
        exact (Library.chain?_stored resolved ..).trans (if_pos rfl)
      have own : (catalog.cache.put "outer"
          ⟨source, Library.parted.fingerprint source, none⟩).get? "outer" = _ :=
        Keyed.get?_put_self ..
      simp only [Compiler.compileBlock, ends_bind, ends_ofExcept, named]
      rw [dif_neg (by decide)]
      simp only [ends_bind, Desk.ends_onCatalog]
      apply Catalog.ends_lookup
      intro journal'
      split
      · exact stores rfl own
      · simp only [ends_bind, ends_discard, ends_pure]
        apply (ends_compileUnder_unlocked ["outer"] (by decide) _).imp
        · exact fun _ t ended => stores ended.1 (ended.2.trans own)
        · exact fun _ _ no => no.elim
    · exact fun _ _ no => no.elim
  · intro e journal missing
    cases missing

theorem compile_parted (catalog : Catalog) {inner : String}
    (reaches : Relation.ReflTransGen Library.parted.Includes "outer" inner) :
    ∃ chain t, compile lockingSetup inner (partedBook ⟨catalog, false⟩) = .ok chain t := by
  have ends : Ends (compile lockingSetup inner) (partedBook ⟨catalog, false⟩) (fun _ _ => True)
      (fun _ _ => False) := by
    have up : (partedBook ⟨catalog, false⟩).connected = true := rfl
    simp only [compile, ends_bind, ends_ensureConnected, up, if_true, ends_library?, ends_onDesk]
    rcases Library.eq_of_reaches_parted reaches with rfl | rfl
    · exact (ends_compile_parted catalog).imp (fun _ _ _ => trivial) fun _ _ no => no
    · exact (ends_compileUnder_unlocked [] (by simp) catalog).imp (fun _ _ _ => trivial)
        fun _ _ no => no
  cases made : compile lockingSetup inner (partedBook ⟨catalog, false⟩) with
  | ok chain t => exact ⟨chain, t, rfl⟩
  | error e t => exact (ends.of_error made).elim

theorem ends_execute_locking (stage : Stage Bool) :
    Ends (lockingStatement.execute .locking) stage (fun n t => n = 1 ∧ t.conn = true)
      (fun _ _ => False) := by
  have names : lockingStatement.marked.bindNames = [] := MarkedText.bindNames_of_plain (by decide)
  have ready : lockingStatement.ready .locking stage.data =
      pure (lockingStatement.marked.sql, ⟨0, lockingStatement.marked.sql⟩) := rfl
  have parameters : lockingStatement.parameters stage.data = .ok [] := by
    simp [Statement.parameters, names, pure, Except.pure]
  simp only [Statement.execute, ends_bind, Action.ends_get, Stage.ends_onLink, Stage.ends_onConn,
    ready, ends_pure, parameters, ends_ofExcept]
  exact ⟨rfl, rfl⟩

end Book

namespace Turn

open Book

theorem ends_runInclude_locked {call : Call Bool} (stack : call.session.stack = ["outer"])
    (locked : call.conn = true) (unmade : Library.parted.chain? call.cache "inner" = none) :
    Ends (Call.runInclude (lockingSetup.compiler .parted) 2 1 "inner") call (fun _ _ => False)
      (fun _ _ => True) := by
  have refused (catalog : Catalog) : Ends ((lockingSetup.compiler .parted).makeStatement "inner" "x")
      ⟨catalog, call.conn⟩ (fun _ t => t.cache = catalog.cache ∧ False)
      (fun _ t => t.cache = catalog.cache ∧ True) := by
    rw [locked]
    apply Compiler.ends_makeStatement_plain "inner" rfl
    exact ⟨rfl, trivial⟩
  have unmade : (lockingSetup.compiler .parted).library.chain? call.cache "inner" = none := unmade
  simp only [Call.runInclude, ends_bind, Action.ends_get, stack]
  rw [if_neg (by decide)]
  simp only [ends_bind, Call.ends_onDesk, Compiler.get, Desk.ends_onCatalog]
  apply Catalog.ends_lookup
  intro journal
  simp only [unmade, Compiler.compile]
  exact (@Compiler.ends_compileUnder_single _ (lockingSetup.compiler .parted) "inner" "x" rfl
    Library.statements_inner rfl [] (by simp) ⟨⟨call.cache, journal⟩, call.conn⟩ (fun _ _ => False)
    (fun _ _ => True) refused).imp (fun _ _ made => made.1.choose_spec.2.elim) fun _ _ _ => trivial

-- The statement of the outer tag locks the connection, and the inner one has to be compiled then.
theorem ends_execute_parted {catalog : Catalog} (counts : Library.parted.chain? catalog.cache
      "outer" = some ⟨"outer", [.statement lockingStatement, .inclusion "inner"]⟩)
    (unmade : Library.parted.chain? catalog.cache "inner" = none) :
    Ends (execute lockingSetup "outer") ⟨partedBook ⟨catalog, false⟩, []⟩ (fun _ _ => False)
      (fun _ _ => True) := by
  have up : (partedBook ⟨catalog, false⟩).connected = true := rfl
  simp only [execute, Book.get, Compiler.get, ends_bind, ends_onBook, ends_ensureConnected, up,
    if_true, ends_library?, ends_onDesk, Desk.ends_onCatalog]
  apply Catalog.ends_lookup
  intro journal
  have counts : (lockingSetup.compiler (partedBook ⟨catalog, false⟩).library).library.chain?
      (partedBook ⟨catalog, false⟩).cache "outer" =
    some ⟨"outer", [.statement lockingStatement, .inclusion "inner"]⟩ := counts
  simp only [counts, ends_pure, Book.ends_noteTag, ends_rescue, ends_runChain, Call.runChain,
    Call.runEntries, Call.runStatement, ends_bind, Call.ends_onStage, Call.ends_onSession,
    ends_modify]
  apply (ends_execute_locking _).imp
  · intro n stage ended
    apply (ends_runInclude_locked rfl ended.2 unmade).imp
    · exact fun _ _ no => no.elim
    · intro e call _
      exact (ends_abandon_fails lockingSetup "outer" e _).imp (fun _ _ no => no.elim)
        fun _ _ _ => trivial
  · exact fun _ _ no => no.elim

theorem ends_create_unlocked :
    Ends (Statement.create lockingSetup.connection lockingSetup.style lockingSetup.placement "x")
      false (fun st s => st = lockingStatement ∧ s = false) (fun _ _ => False) := by
  have plain : (MarkedText.ofText .question "x").needsSubstitution = false :=
    MarkedText.needsSubstitution_of_plain (by decide)
  have classified : StatementKind.classify "x" = .ok (.mutation, "x") := rfl
  have style : lockingSetup.style.getD lockingSetup.connection.style = .question := rfl
  simp only [Statement.create, classified, ends_bind, ends_ofExcept, style, plain,
    Bool.false_eq_true, if_false, Statement.prepareText, ends_request, ends_pure]
  exact ⟨rfl, rfl⟩

theorem ends_executeTexts_parted (catalog : Catalog) :
    Ends (executeTexts lockingSetup "outer" ["x", "x"]) ⟨partedBook ⟨catalog, false⟩, []⟩
      (fun n _ => n = 2) (fun _ _ => False) := by
  simp only [executeTexts, createAll, ends_bind, ends_onBook, ends_onDesk, Desk.ends_onConn,
    List.mapM_cons, List.mapM_nil, ends_rescue, onStage, ends_focus, ends_pure]
  apply ends_create_unlocked.imp _ fun _ _ no => no.elim
  rintro _ _ ⟨rfl, rfl⟩
  apply ends_create_unlocked.imp _ fun _ _ no => no.elim
  rintro _ _ ⟨rfl, rfl⟩
  simp only [Statement.runAll, ends_bind, ends_pure]
  apply (ends_execute_locking _).imp
  · rintro _ stage ⟨rfl, -⟩
    apply (ends_execute_locking _).imp
    · rintro _ stage' ⟨rfl, -⟩
      exact rfl
    · exact fun _ _ no => no.elim
  · exact fun _ _ no => no.elim

/-- The inner tag has lost its chain. It is compiled anew in the middle of the run, when the
connection refuses it; the statements of the flat run have been made before. -/
theorem exists_refused_midway :
    ∃ book : Book Bool, Book.Reached lockingSetup book ∧
      (∀ inner, Relation.ReflTransGen book.library.Includes "outer" inner →
        ∃ chain t, Book.compile lockingSetup inner book = .ok chain t) ∧
      (∀ walk, ("outer" :: walk).IsChain book.library.Includes →
        ("outer" :: walk).length ≤ lockingSetup.maxDepth) ∧
      (∀ others, book.library.FlatOf "outer" others ↔ others = ["x", "x"]) ∧
      (∃ e t, execute lockingSetup "outer" ⟨book, []⟩ = .error e t) ∧
      ∃ t, executeTexts lockingSetup "outer" ["x", "x"] ⟨book, []⟩ = .ok 2 t := by
  have compiles : EndsIn (use lockingSetup (.compile "outer")) (partedBook ⟨⟨[], []⟩, false⟩)
      (fun t => ∃ catalog, t = partedBook ⟨catalog, false⟩ ∧
        Library.parted.chain? catalog.cache "outer" =
          some ⟨"outer", [.statement lockingStatement, .inclusion "inner"]⟩) := by
    rw [EndsIn, ends_compileUse]
    apply (ends_compile_parted ⟨[], []⟩).imp
    · rintro _ ⟨catalog, _⟩ ⟨rfl, counts⟩
      exact ⟨catalog, rfl, counts⟩
    · exact fun _ _ no => no.elim
  obtain ⟨catalog, same, counts⟩ := compiles.outcome
  let stale : Catalog := { catalog with cache := catalog.cache.erase "inner" }
  have counts' : Library.parted.chain? stale.cache "outer" =
      some ⟨"outer", [.statement lockingStatement, .inclusion "inner"]⟩ := by
    rw [Library.chain?_erase, if_neg (by decide), counts]
  have unmade : Library.parted.chain? stale.cache "inner" = none := by
    rw [Library.chain?_erase, if_pos rfl]
  have reached : Book.after lockingSetup (partedBook ⟨⟨[], []⟩, false⟩)
      [.compile "outer", .invalidate "inner"] = partedBook ⟨stale, false⟩ := by
    change Book.after lockingSetup ((use lockingSetup (.compile "outer")).outcome _).2 _ = _
    rw [same]
    rfl
  refine ⟨partedBook ⟨stale, false⟩, ⟨_, _, ⟨false, []⟩, true, _, reached.symm⟩,
    fun inner reaches => compile_parted stale reaches, Library.within_iff.mp Library.within_parted,
    fun others => ⟨Library.flatOf_parted.unique, fun same => same ▸ Library.flatOf_parted⟩, ?_, ?_⟩
  · have fails := ends_execute_parted counts' unmade
    cases ran : execute lockingSetup "outer" ⟨partedBook ⟨stale, false⟩, []⟩ with
    | ok n t => exact (fails.of_ok ran).elim
    | error e t => exact ⟨e, t, rfl⟩
  · exact (ends_executeTexts_parted stale).exists_ok

end Turn

end QueryBook
