import QueryBook.Proofs.Caching
import QueryBook.Proofs.Outdating

set_option autoImplicit false

namespace QueryBook

open QueryBook.Action Compiler

namespace Compiler

variable {σ : Type} {c : Compiler σ}

theorem foresees_of_makeable_late (blames : c.connection.BlamesNoTemplate)
    (accepts : String → Nat → Prop) :
    c.Foresees (c.library.Sound (c.Makeable accepts)) Error.OfRun := by
  refine foresees_of_sound (fun tag block desk makeable => ?_) fun tag => Error.OfRun.blame tag
  obtain ⟨kind, sql, classified, -⟩ := makeable
  exact ends_makeStatement_classified blames tag desk ⟨kind, sql, classified⟩

end Compiler

theorem Turn.ofRun_of_execute {σ : Type} {setup : Setup σ} {accepts : String → Nat → Prop}
    (turn : Turn σ) {final : Turn σ} {tag : String} {e : Error}
    (blames : setup.connection.BlamesNoTemplate)
    {m : (setup.compiler turn.library).Making} (moved : setup.connection.MovesBy m.Moves)
    (kept : Kept m turn.toDesk)
    (sound : turn.library.Sound ((setup.compiler turn.library).Makeable accepts) tag)
    (failed : (execute setup tag).outcome turn = (.error e, final)) : e.OfRun := by
  let c := setup.compiler turn.library
  have foreseen := foresees_of_makeable_late (c := c) blames accepts
  let tour := soundTour m blames (c.Makeable accepts) (Kept m) Steps.kept id
  exact bad_of_execute moved.toWorksBy foreseen tour rfl sound kept ⟨.singleton tag, sound⟩
    (eq_error_of_outcome failed)

namespace Book

variable {σ : Type} {setup : Setup σ} {accepts : String → Nat → Prop}
  {outdated : String → String → Prop} {book t : Book σ}
  {prepares : setup.connection.PreparesAs accepts}

theorem Follows.of_prepared {tags : List String} {tag : String}
    (follows : Follows prepares outdated book) (prepared : prepare setup tags book = .ok () t)
    (asked : tag ∈ tags) (mended : (setup.compiler t.library).Mended outdated t.toDesk tag) :
    Follows prepares outdated t ∧
      t.library.Compilable ((setup.compiler t.library).Makeable accepts) tag := by
  let m := (setup.compiler book.library).accepting prepares
  obtain ⟨advanced, counts⟩ :=
    (ends_prepare (m := m) (foresees_any _) (fun _ _ => trivial) rfl).of_ok prepared
  have later := follows.of_advances advanced
  have made : (t.library.chain? t.cache tag).isSome := by
    rw [advanced.library]
    exact counts tag asked
  exact ⟨later, later.current.compilable mended made fun _ _ _ known => known⟩

/-- As long as no template is edited after a tag has been prepared, an execution of the tag finds
nothing wrong with a template, but that includes go too deep. Preparing leaves a tag alone that has
a chain, so nothing is known of an include that is older than an edit behind it. -/
theorem execute_prepared (blames : setup.connection.BlamesNoTemplate)
    (prepares : setup.connection.PreparesAs accepts) (templates : List (String × String))
    (tree : FileTree) (link : Link σ) (autocommit : Bool)
    {uses later : List Use} (each : ∀ u ∈ uses, u.advances = true ∨ u.edits = true)
    {tags : List String} {t : Book σ}
    (prepared : prepare setup tags
      (after setup (inMemory templates tree link autocommit) uses) = .ok () t)
    {tag : String} (asked : tag ∈ tags)
    (mended : (setup.compiler t.library).Mended
      (Outdated setup (inMemory templates tree link autocommit) uses) t.toDesk tag)
    (unchanged : ∀ u ∈ later, u.edits = false) :
    t.library.Compilable ((setup.compiler t.library).Makeable accepts) tag ∧
    ∀ data e final,
      (Turn.execute setup tag).outcome ⟨after setup t later, data⟩ = (.error e, final) →
      e.kind.isCompile = false ∨ ∃ limit chain, e = .includeDepth limit chain := by
  have follows := follows_after prepares templates tree link autocommit each
  obtain ⟨⟨-, current⟩, compilable⟩ := follows.of_prepared prepared asked mended
  refine ⟨compilable, fun data e final failed => ?_⟩
  have sound := Library.sound_iff_compilable.mpr compilable
  obtain ⟨same, kept⟩ := lasts_after (Connection.MovesBy.any setup.connection)
    (lasting_kept ((setup.compiler t.library).accepting prepares)) unchanged rfl current.kept
  rw [← same] at sound kept
  exact Turn.ofRun_of_execute ⟨after setup t later, data⟩ blames (Connection.MovesBy.any _) kept
    sound failed

end Book

theorem Connection.blamesNoTemplate_willing {σ : Type} :
    (willing : Connection σ).BlamesNoTemplate := by
  intro e own raised
  cases raised with
  | _ answered => cases answered

namespace Book

def willingSetup : Setup Unit where
  connection := .willing
  placement := .plain
  style := none
  warnBareColumns := false
  dialect := none
  parse := fun _ _ => .other
  maxDepth := 2

def willingBook : Book Unit :=
  inMemory [("outer", "include inner"), ("inner", "x")] .empty ⟨(), []⟩ true

theorem prepares_willing : willingSetup.connection.PreparesAs fun _ _ => True :=
  fun _ _ _ => trivial

theorem sound_nested_willing :
    Library.nested.Sound ((willingSetup.compiler .nested).Makeable fun _ _ => True) "outer" :=
  Library.sound_nested ⟨_, _, rfl, fun _ => trivial⟩

theorem exists_prepared {library : Library} {tag : String} {book : Book Unit}
    (sound : library.Sound ((willingSetup.compiler library).Makeable fun _ _ => True) tag)
    (same : book.library = library) (up : book.connected = true) :
    ∃ t, prepare willingSetup [tag] book = .ok () t ∧
      Advances ((willingSetup.compiler library).accepting prepares_willing) book t ∧
      (library.chain? t.cache tag).isSome := by
  have ends := ends_prepare (m := (willingSetup.compiler library).accepting prepares_willing)
    (foresees_of_makeable prepares_willing rfl) (List.forall_mem_singleton.mpr sound) same
  cases prepared : prepare willingSetup [tag] book with
  | ok _ t =>
    obtain ⟨advanced, counts⟩ := ends.of_ok prepared
    exact ⟨t, rfl, advanced, counts tag (by simp)⟩
  | error e t => exact ((ends.of_error prepared).2 up).elim

theorem follows_nested : Follows prepares_willing (fun _ _ => False) willingBook :=
  ⟨⟨_, rfl, MemoryShelf.dated_ofList _, Cache.dated_nil _⟩, .of_fresh rfl⟩

end Book

theorem Library.template_add_inner (tag : String) :
    (nested.add "inner" "x").template tag = nested.template tag := by
  by_cases same : tag = "inner"
  · subst same
    rfl
  · exact template_of_get? rfl rfl (Keyed.get?_put_of_ne _ _ same)

namespace Book

theorem eq_inner_of_outdated {outer inner : String}
    (old : Outdated willingSetup willingBook
      [.prepare ["outer"], .add "inner" "x", .prepare ["inner"]] outer inner) :
    inner = "inner" ∧ outer ≠ inner := by
  obtain ⟨before, u, later, split, edits, -, kept⟩ := old
  have member : u ∈ [Use.prepare ["outer"], .add "inner" "x", .prepare ["inner"]] := by
    simp [split]
  constructor
  · simp only [List.mem_cons, List.not_mem_nil, or_false] at member
    rcases member with rfl | rfl | rfl
    · cases edits
    · exact (Option.some.inj edits).symm
    · cases edits
  · rintro rfl
    exact kept u (by simp) edits

theorem execute_prepared_outer :
    let uses : List Use := [.prepare ["outer"], .add "inner" "x", .prepare ["inner"]]
    willingSetup.connection.BlamesNoTemplate ∧
    willingSetup.connection.PreparesAs (fun _ _ => True) ∧
    (∀ u ∈ uses, u.advances = true ∨ u.edits = true) ∧
    ∃ t, prepare willingSetup ["outer"] (after willingSetup willingBook uses) = .ok () t ∧
      (willingSetup.compiler t.library).Mended (Outdated willingSetup willingBook uses) t.toDesk
        "outer" ∧
      t.library.Compilable ((willingSetup.compiler t.library).Makeable fun _ _ => True) "outer" ∧
      ∀ data e final,
        (Turn.execute willingSetup "outer").outcome ⟨after willingSetup t [], data⟩ =
          (.error e, final) →
        e.kind.isCompile = false ∨ ∃ limit chain, e = .includeDepth limit chain := by
  intro uses
  have each : ∀ u ∈ uses, u.advances = true ∨ u.edits = true := by decide
  obtain ⟨first, prepared, advanced, -⟩ :=
    @exists_prepared _ _ willingBook sound_nested_willing rfl rfl
  let edited : Book Unit := { first with library := first.library.add "inner" "x" }
  have library : edited.library = Library.nested.add "inner" "x" :=
    congrArg (·.add "inner" "x") advanced.library
  have sound := sound_nested_willing.of_template Library.template_add_inner
  have inward := (sound_nested_willing.inward (Library.includes_nested.mpr ⟨rfl, rfl⟩)).of_template
    Library.template_add_inner
  obtain ⟨second, prepared', advanced', counts⟩ := @exists_prepared _ _ edited inward library
    advanced.connected
  obtain ⟨t, again, advanced'', -⟩ := @exists_prepared _ _ second sound advanced'.library
    (advanced'.connected.trans advanced.connected)
  have reached : after willingSetup willingBook uses = second := by
    have later : after willingSetup first [.add "inner" "x", .prepare ["inner"]] = second := by
      change ((prepare willingSetup ["inner"]).outcome edited).2 = second
      simp only [Action.outcome, prepared']
    rw [← later]
    change after willingSetup ((prepare willingSetup ["outer"]).outcome willingBook).2 _ = _
    simp only [Action.outcome, prepared]
  have mended : (willingSetup.compiler t.library).Mended (Outdated willingSetup willingBook uses)
      t.toDesk "outer" := by
    intro outer inner _ old
    obtain ⟨rfl, different⟩ := eq_inner_of_outdated old
    constructor
    · change (t.library.chain? t.cache "inner").isSome
      rw [advanced''.library]
      exact advanced''.isSome counts
    · intro back
      change Relation.ReflTransGen t.library.Includes "inner" outer at back
      rw [advanced''.library, Library.includes_of_template Library.template_add_inner] at back
      cases back.cases_head with
      | inl same => exact different same.symm
      | inr way =>
        obtain ⟨next, includes, -⟩ := way
        have other := (Library.includes_nested.mp includes).1
        simp at other
  have again : prepare willingSetup ["outer"] (after willingSetup willingBook uses) = .ok () t :=
    reached ▸ again
  exact ⟨Connection.blamesNoTemplate_willing, prepares_willing, each, t, again, mended,
    execute_prepared Connection.blamesNoTemplate_willing prepares_willing _ _ _ _ each again
      (by simp) mended (by simp)⟩

variable {σ : Type} {setup : Setup σ} {book : Book σ}

theorem ends_prepare_again {tag : String} {chain : Chain} (up : book.connected = true)
    (counts : book.library.chain? book.cache tag = some chain) :
    Ends (prepare setup [tag]) book (fun _ t => ∃ journal, t = { book with journal })
      (fun _ _ => False) := by
  change Ends (ensureConnected >>= fun _ => prepareTag setup tag >>= fun _ => pure ()) book _ _
  simp only [prepareTag, lookup, ends_bind, ends_ensureConnected, up, if_true, ends_library?,
    ends_onCatalog]
  apply Catalog.ends_lookup
  intro journal
  simp only [counts]
  exact ⟨journal, rfl⟩

end Book

namespace Turn

open Book

theorem ends_abandon_willing (tag : String) (e : Error) {turn : Turn Unit}
    (up : turn.connected = true) :
    Ends (abandon willingSetup tag e : Action _ Int) turn (fun _ _ => False)
      (fun e' _ => e' = e) := by
  simp only [ends_abandon, Book.rollback, ends_bind, Book.ends_note, Book.ends_ensureConnected, up,
    if_true, Book.ends_ask]
  trivial

theorem ends_runInclude_missing {library : Library} {e : Error} {call : Call Unit}
    (stack : call.session.stack = ["outer"]) (unmade : library.chain? call.cache "inner" = none)
    (missing : library.template "inner" = .error e) :
    Ends (Call.runInclude (willingSetup.compiler library) 2 1 "inner") call
      (fun _ _ => False) (fun e' _ => e' = e) := by
  simp only [Call.runInclude, ends_bind, Action.ends_get, stack]
  rw [if_neg (by decide)]
  simp only [ends_bind, Call.ends_onDesk]
  exact (ends_get_missing unmade missing).imp (fun _ _ no => no.elim) fun _ _ same => same

theorem ends_execute_missing {turn : Turn Unit} {e : Error} (up : turn.connected = true)
    (counts : turn.library.chain? turn.cache "outer" = some ⟨"outer", [.inclusion "inner"]⟩)
    (unmade : turn.library.chain? turn.cache "inner" = none)
    (missing : turn.library.template "inner" = .error e) :
    Ends (execute willingSetup "outer") turn (fun _ _ => False) (fun e' _ => e' = e) := by
  simp only [execute, Book.get, Compiler.get, ends_bind, ends_onBook, ends_ensureConnected, up,
    if_true, ends_library?, ends_onDesk, Desk.ends_onCatalog]
  apply Catalog.ends_lookup
  intro journal
  have counts : (willingSetup.compiler turn.library).library.chain? turn.cache "outer" =
      some ⟨"outer", [.inclusion "inner"]⟩ := counts
  simp only [counts, ends_pure, Book.ends_noteTag, ends_rescue, ends_runChain, Call.runChain,
    Call.runEntries, ends_bind]
  apply (ends_runInclude_missing rfl unmade missing).imp
  · exact fun _ _ no => no.elim
  · intro e' call failed
    subst failed
    exact (ends_abandon_willing "outer" e' rfl).imp (fun _ _ no => no.elim) fun _ _ same => same

end Turn

theorem Library.chain_of_outer {known : String → Statement → Prop} {chain : Chain}
    (made : nested.ChainOf known "outer" chain) : chain = ⟨"outer", [.inclusion "inner"]⟩ := by
  obtain ⟨tag, entries⟩ := chain
  obtain ⟨rfl, body, found, made⟩ := made
  cases found
  rw [statements_outer] at made
  cases made with
  | cons head rest =>
    cases rest
    cases head with
    | inclusion named =>
      cases named
      rfl
    | statement plain => cases plain

namespace Book

theorem chain?_outer {t : Book Unit}
    (advanced : Advances ((willingSetup.compiler .nested).accepting prepares_willing) willingBook t)
    (counts : (Library.nested.chain? t.cache "outer").isSome) :
    t.library.chain? t.cache "outer" = some ⟨"outer", [.inclusion "inner"]⟩ := by
  obtain ⟨chain, counts⟩ := Option.isSome_iff_exists.mp counts
  have kept : Kept ((willingSetup.compiler .nested).accepting prepares_willing) t.toDesk :=
    advanced.steps.kept (kept_of_fresh rfl)
  rw [← Library.chain_of_outer (kept "outer" chain counts), advanced.library, counts]

/-- The outer tag keeps its chain when the inner one is removed, and is not prepared again. -/
theorem exists_unreported :
    ∃ (uses : List Use) (t : Book Unit) (final : Turn Unit),
      willingSetup.connection.PreparesAs (fun _ _ => True) ∧
      (∀ u ∈ uses, u.advances = true ∨ u.edits = true) ∧
      prepare willingSetup ["outer"] (after willingSetup willingBook uses) = .ok () t ∧
      (Turn.execute willingSetup "outer").outcome ⟨t, []⟩ =
        (.error (.unknownTag "inner"), final) ∧
      (Error.unknownTag "inner").kind.isCompile = true := by
  obtain ⟨book, prepared, advanced, counts⟩ :=
    @exists_prepared _ _ willingBook sound_nested_willing rfl rfl
  let removed : Book Unit :=
    { book with cache := book.cache.erase "inner", library := book.library.remove "inner" }
  have reached : after willingSetup willingBook [.prepare ["outer"], .remove "inner"] = removed := by
    change after willingSetup ((prepare willingSetup ["outer"]).outcome willingBook).2 _ = _
    simp only [Action.outcome, prepared]
    rfl
  have edited : Edited "inner" book removed :=
    (Shelved.remove (follows_nested.of_advances advanced).shelved "inner").2
  have counts' := (edited.chains "outer" (by decide)).trans (chain?_outer advanced counts)
  have up : removed.connected = true := advanced.connected
  have missing : removed.library.template "inner" = .error (.unknownTag "inner") := by
    change (book.library.remove "inner").template "inner" = _
    rw [advanced.library]
    rfl
  have again := @ends_prepare_again _ willingSetup _ _ _ up counts'
  cases prepared : prepare willingSetup ["outer"] removed with
  | error e t => exact (again.of_error prepared).elim
  | ok _ t =>
    obtain ⟨journal, rfl⟩ := again.of_ok prepared
    have fails := @Turn.ends_execute_missing ⟨{ removed with journal }, []⟩ _ up counts'
      edited.gone missing
    cases executed : Turn.execute willingSetup "outer" ⟨{ removed with journal }, []⟩ with
    | ok affected final => exact (fails.of_ok executed).elim
    | error e final =>
      cases fails.of_error executed
      refine ⟨[.prepare ["outer"], .remove "inner"], _, final, prepares_willing, by decide,
        by rw [reached, prepared], ?_, rfl⟩
      simp only [Action.outcome, executed]

end Book

end QueryBook
