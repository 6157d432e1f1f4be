import QueryBook.Proofs.Histories
import QueryBook.Proofs.Settling
import QueryBook.Proofs.Sound

set_option autoImplicit false

namespace QueryBook

namespace Compiler

variable {σ : Type} {c : Compiler σ} {m : c.Making} {fine : String → Prop} {lost : List String}
  {desk t : Desk σ} {tag : String}

structure Traced (m : c.Making) (fine : String → Prop) (lost : List String) (desk : Desk σ) :
    Prop where
  kept : Kept m desk
  sound : ∀ tag chain, c.library.chain? desk.cache tag = some chain → c.library.Sound fine tag
  closed : ∀ tag chain, c.library.chain? desk.cache tag = some chain →
    ∀ inner ∈ chain.includes, (c.library.chain? desk.cache inner).isSome ∨ inner ∈ lost

theorem Traced.empty (fresh : desk.cache = []) : Traced m fine [] desk := by
  have unmade (tag : String) : c.library.chain? desk.cache tag = none := by
    rw [fresh, Library.chain?_nil]
  constructor
  · intro tag chain counts
    simp [unmade] at counts
  · intro tag chain counts
    simp [unmade] at counts
  · intro tag chain counts
    simp [unmade] at counts

theorem Traced.imp {more : List String} (traced : Traced m fine lost desk)
    (still : ∀ tag ∈ lost, (c.library.chain? desk.cache tag).isSome ∨ tag ∈ more) :
    Traced m fine more desk where
  kept := traced.kept
  sound := traced.sound
  closed := by
    intro tag chain counts inner member
    rcases traced.closed tag chain counts inner member with counted | gone
    · exact .inl counted
    · exact still inner gone

theorem Step.isSome {inner : String} (step : Step m desk t)
    (counts : (c.library.chain? desk.cache inner).isSome) :
    (c.library.chain? t.cache inner).isSome := by
  obtain ⟨chain, counts⟩ := Option.isSome_iff_exists.mp counts
  simp [step.chain? counts]

theorem Traced.of_step (knows : ∀ s block st, m.Known s block st → fine block)
    (traced : Traced m fine lost desk) (step : Step m desk t) : Traced m fine lost t where
  kept := step.kept traced.kept
  sound := step.vouched knows traced.sound
  closed := by
    intro tag chain counts within member
    have before : (c.library.chain? desk.cache within).isSome ∨ within ∈ lost := by
      cases step with
      | asked => exact traced.closed tag chain counts within member
      | found => exact traced.closed tag chain (Library.chain?_of_found counts) within member
      | stored other source chain' resolved unmade made inner =>
        rw [Library.chain?_stored resolved] at counts
        split at counts
        · cases counts
          exact .inl (inner within member)
        · exact traced.closed tag chain counts within member
    exact before.imp_left step.isSome

theorem Traced.of_steps (knows : ∀ s block st, m.Known s block st → fine block)
    (traced : Traced m fine lost desk) (steps : Steps m desk t) : Traced m fine lost t := by
  induction steps with
  | refl => exact traced
  | tail _ step ih => exact ih.of_step knows step

theorem Traced.reset (traced : Traced m fine lost desk) (tag : String) (source : Source)
    (journal : Journal) :
    Traced m fine (tag :: lost)
      { desk with
        cache := desk.cache.put tag ⟨source, c.library.fingerprint source, none⟩, journal } := by
  constructor
  · exact fun other chain counts => traced.kept other chain (Library.chain?_of_found counts)
  · exact fun other chain counts => traced.sound other chain (Library.chain?_of_found counts)
  · intro other chain counts inner member
    by_cases same : inner = tag
    · simp [same]
    · rw [Library.chain?_found, if_neg same]
      exact (traced.closed other chain (Library.chain?_of_found counts) inner member).imp_right
        (List.mem_cons_of_mem tag)

theorem Traced.acyclic (traced : Traced m fine lost desk) :
    ¬ Relation.TransGen
      (fun tag inner => ∃ chain, c.library.chain? desk.cache tag = some chain ∧
        inner ∈ chain.includes) tag tag := by
  intro cycle
  have includes : Relation.TransGen c.library.Includes tag tag := by
    refine Relation.TransGen.mono ?_ _ _ cycle
    intro outer inner linked
    obtain ⟨chain, counts, member⟩ := linked
    exact (traced.kept outer chain counts).mem_includes_iff.mp member
  obtain ⟨_, ⟨chain, counts, -⟩, -⟩ := Relation.TransGen.head'_iff.mp cycle
  exact (traced.sound tag chain counts).acyclic includes

theorem ends_compile_traced (knows : ∀ s block st, m.Known s block st → fine block)
    (traced : Traced m fine lost desk) (tag : String) :
    Action.Ends (c.compile tag) desk (fun _ t => Traced m fine lost t)
      (fun _ t => Traced m fine
        ((if (c.library.chain? desk.cache tag).isSome then [tag] else []) ++ lost) t) := by
  apply (ends_compile m c.foresees_any tag trivial desk).imp
  · intro chain t ended
    obtain ⟨⟨source, journal, -, steps⟩, counts, -⟩ := ended
    apply ((traced.reset tag source journal).of_steps knows steps).imp
    intro other member
    rcases List.mem_cons.mp member with rfl | member
    · simp [counts]
    · exact .inr member
  · intro e t failed
    rcases failed with ⟨steps | ⟨source, journal, resolved, steps⟩, -⟩
    · apply (traced.of_steps knows steps).imp
      intro other member
      split <;> simp [member]
    · split
      next => exact (traced.reset tag source journal).of_steps knows steps
      next made =>
        have unmade : c.library.chain? desk.cache tag = none := by simpa using made
        have first : Steps m desk { desk with journal } :=
          .single (.asked desk desk.conn journal (m.refl _))
        have reset := @Step.found _ _ m { desk with journal } tag source resolved unmade
        exact traced.of_steps knows ((first.tail reset).trans steps)

def Classified (block : String) : Prop :=
  ∃ kind sql, StatementKind.classify block = .ok (kind, sql)

def classifying (c : Compiler σ) : c.Making where
  Known := fun _ block _ => Classified block
  Moves := fun _ _ => True
  refl := fun _ => trivial
  trans := fun _ _ => trivial
  known_of_moves := fun known _ => known
  makes block s := by
    rw [Statement.create_eq]
    simp only [Statement.draft, Action.ends_bind, Action.ends_ofExcept]
    cases classified : StatementKind.classify block with
    | error e => trivial
    | ok found =>
      refine (Action.ends_self _ s).imp (fun st t _ => ?_) fun _ _ _ => trivial
      exact ⟨trivial, fun _ => ⟨found.1, found.2, classified⟩⟩

end Compiler

open Compiler

namespace Book

variable {σ : Type} {setup : Setup σ} {lost : List String} {book : Book σ}

def recompiled (book : Book σ) : Use → List String
  | .compile tag => if (book.library.chain? book.cache tag).isSome then [tag] else []
  | _ => []

-- The tags that have lost their chains in a history, because they were compiled again and the
-- compilation failed.
def dropped (setup : Setup σ) : Book σ → List Use → List String
  | _, [] => []
  | book, u :: rest =>
    match (use setup u).outcome book with
    | (.ok _, t) => dropped setup t rest
    | (.error _, t) => book.recompiled u ++ dropped setup t rest

def Traces (setup : Setup σ) (library : Library) (lost : List String) (book : Book σ) : Prop :=
  book.library = library ∧
    Traced (setup.compiler library).classifying Classified lost book.toDesk

theorem Traces.of_advances {library : Library} {t : Book σ}
    (traces : Traces setup library lost book)
    (advances : Advances (setup.compiler library).classifying book t) :
    Traces setup library lost t :=
  ⟨advances.library, traces.2.of_steps (fun _ _ _ known => known) advances.steps⟩

theorem ends_use_traces {library : Library} {u : Use} (compiles : u.compiles = true)
    (traces : Traces setup library lost book) :
    Action.Ends (use setup u) book (fun _ t => Traces setup library lost t)
      (fun _ t => Traces setup library (book.recompiled u ++ lost) t) := by
  obtain ⟨same, traced⟩ := traces
  have advanced {u : Use} (advances : u.advances = true) :
      Action.EndsIn (use setup u) book (Traces setup library lost) := by
    have traces {t : Book σ} (advances : Advances (setup.compiler library).classifying book t) :
        Traces setup library lost t :=
      Traces.of_advances ⟨same, traced⟩ advances
    exact (ends_use_advances (Connection.MovesBy.any _) advances same).mono fun _ => traces
  cases u with
  | prepare tags => exact advanced rfl
  | get tag => exact advanced rfl
  | execute tag data => exact advanced rfl
  | compile tag =>
    subst same
    rw [ends_compileUse]
    split
    · apply (ends_compile_traced (fun _ _ _ known => known) traced tag).imp
      · exact fun _ _ traced => ⟨rfl, traced⟩
      · exact fun _ _ traced => ⟨rfl, traced⟩
    · exact ⟨rfl, traced.imp fun _ member => .inr (by simp [member])⟩
  | _ => cases compiles

theorem traces_after {library : Library} {uses : List Use}
    (compiles : ∀ u ∈ uses, u.compiles = true) (traces : Traces setup library lost book) :
    Traces setup library (dropped setup book uses ++ lost) (after setup book uses) := by
  induction uses generalizing book lost with
  | nil => exact traces
  | cons u rest ih =>
    have ends := ends_use_traces (compiles u (by simp)) traces
    have others : ∀ other ∈ rest, other.compiles = true :=
      fun other member => compiles other (List.mem_cons_of_mem _ member)
    unfold after dropped Action.outcome
    cases used : use setup u book with
    | ok _ t => exact ih others (ends.of_ok used)
    | error e t =>
      obtain ⟨same, traced⟩ := ih others (ends.of_error used)
      refine ⟨same, traced.imp fun tag member => .inr ?_⟩
      simpa [or_left_comm, or_assoc] using member

end Book

def Error.OfRun (e : Error) : Prop :=
  e.kind.isCompile = false ∨ ∃ limit chain, e = .includeDepth limit chain

theorem Error.OfRun.blame {e : Error} (tag : String) (ofRun : e.OfRun) : (e.blame tag).OfRun := by
  rcases ofRun with late | ⟨limit, chain, rfl⟩
  · exact .inl ((congrArg ErrorKind.isCompile (kind_blame tag e)).trans late)
  · exact .inr ⟨limit, chain, rfl⟩

theorem Error.ofRun_of_late {σ : Type} {conn : Connection σ} {e : Error}
    (blames : conn.BlamesNoTemplate) (late : e.Late conn) : e.OfRun :=
  .inl (late.not_compile blames)

theorem Error.ofRun_includeDepth (limit : Nat) (stack : List String) (tag : String) :
    (Error.includeDepth limit (stack ++ [tag])).OfRun :=
  .inr ⟨limit, stack ++ [tag], rfl⟩

namespace Compiler

variable {σ : Type} {c : Compiler σ}

-- A statement fails to be made because its block does not read, because the connection refuses its
-- text, or because the parser breaks down over it while columns are looked at.
theorem ends_makeStatement_bad {Bad : Error → Prop} (tag : String) {block : String} (desk : Desk σ)
    (unread : ∀ e, Statement.draft (c.style.getD c.connection.style) c.placement block = .error e →
      Bad e)
    (refused : ∀ sql f, c.connection.Raises f → Bad (.wrapFault sql f))
    (broken : ∀ (s : Statement) name text, c.warnBareColumns = true →
      c.parse c.dialect s.sql = .broken name text → Bad (.analysis name text)) :
    Action.Ends (c.makeStatement tag block) desk (fun _ _ => True) (fun e _ => Bad e) := by
  have labels (s : Statement) (desk : Desk σ) :
      Action.Ends (c.checkLabels tag s) desk (fun _ _ => True) (fun e _ => Bad e) := by
    apply ends_checkLabels
    · exact fun _ _ => trivial
    · intro name text broke fails
      have looked := (Classical.not_imp.mp fails).1
      simp only [Bool.and_eq_true] at looked
      exact broken s name text looked.1.1 broke
  simp only [makeStatement, Action.ends_bind, Desk.ends_onConn, Statement.create_eq,
    Action.ends_ofExcept, Action.ends_pure]
  cases drafted : Statement.draft (c.style.getD c.connection.style) c.placement block with
  | error e => exact unread e drafted
  | ok d =>
    simp only
    split
    · exact labels _ _
    · simp only [Statement.prepareText, Action.ends_bind, Action.ends_request, Action.ends_pure]
      apply (Action.ends_self _ desk.conn).imp
      · exact fun _ _ _ => labels _ _
      · exact fun f _ answered => refused _ f (.prepare answered)

theorem ends_makeStatement_classified (blames : c.connection.BlamesNoTemplate) (tag : String)
    {block : String} (desk : Desk σ) (classified : Classified block) :
    Action.Ends (c.makeStatement tag block) desk (fun _ _ => True) (fun e _ => e.OfRun) := by
  apply ends_makeStatement_bad
  · intro e failed
    obtain ⟨kind, sql, classified⟩ := classified
    simp [Statement.draft, classified] at failed
  · exact fun sql f raised => Error.ofRun_of_late blames (raised.late sql)
  · exact fun _ _ _ _ _ => .inl rfl

theorem foresees_classified (blames : c.connection.BlamesNoTemplate) :
    c.Foresees (c.library.Sound Classified) Error.OfRun :=
  foresees_of_sound (fun tag _ desk => ends_makeStatement_classified blames tag desk)
    fun tag => Error.OfRun.blame tag

theorem Kept.walks_on {m : c.Making} {fine : String → Prop} {desk : Desk σ} {stack : List String}
    {tag inner : String} {chain : Chain} (kept : Kept m desk)
    (walks : (stack ++ [tag]).IsChain c.library.Includes ∧ c.library.Sound fine tag)
    (counts : c.library.chain? desk.cache tag = some chain) (member : inner ∈ chain.includes) :
    (stack ++ [tag] ++ [inner]).IsChain c.library.Includes ∧ c.library.Sound fine inner := by
  obtain ⟨walk, sound⟩ := walks
  have includes := (kept tag chain counts).mem_includes_iff.mp member
  exact ⟨Library.isChain_concat walk includes, sound.inward includes⟩

-- The stack is a walk from tag to included tag, and such a walk goes no way back.
def soundTour (m : c.Making) (blames : c.connection.BlamesNoTemplate) (fine : String → Prop)
    (Holds : Desk σ → Prop) (holds : ∀ {desk t}, Steps m desk t → Holds desk → Holds t)
    (kept : ∀ {desk}, Holds desk → Kept m desk) :
    Call.Tour m (c.library.Sound fine) Error.OfRun where
  Holds := Holds
  Enters := fun stack tag =>
    (stack ++ [tag]).IsChain c.library.Includes ∧ c.library.Sound fine tag
  Ran := fun _ _ => True
  kept := holds
  fine := And.right
  cyclic := fun enters met => absurd (Library.transGen_of_mem enters.1 met) enters.2.acyclic
  deep := Error.ofRun_includeDepth
  late := fun _ => Error.ofRun_of_late blames
  inward := fun traced enters _ => (kept traced).walks_on enters
  ran := fun _ _ _ => trivial

def tracedTour (blames : c.connection.BlamesNoTemplate) (lost : List String) :
    Call.Tour c.classifying (c.library.Sound Classified) Error.OfRun :=
  soundTour c.classifying blames Classified (Traced c.classifying Classified lost)
    (fun steps traced => traced.of_steps (fun _ _ _ known => known) steps) Traced.kept

end Compiler

theorem Book.ends_prepare_bad {σ : Type} {setup : Setup σ} {book : Book σ} {Fine : String → Prop}
    {Bad : Error → Prop} (foreseen : (setup.compiler book.library).Foresees Fine Bad)
    (down : Bad .disconnected) {tags : List String} (fine : ∀ tag ∈ tags, Fine tag) :
    Action.Ends (prepare setup tags) book (fun _ _ => True) (fun e _ => Bad e) := by
  have prepares := ends_forM_prepareTag (m := (setup.compiler book.library).classifying) foreseen
    fine rfl
  simp only [prepare, Action.ends_bind, ends_ensureConnected]
  split
  next up => exact prepares.imp (fun _ _ _ => trivial) fun _ _ failed => failed.2 up
  next => exact down

namespace Turn

variable {σ : Type} {setup : Setup σ} {library : Library} {lost : List String}

theorem bad_of_attempt {m : (setup.compiler library).Making} {Fine : String → Prop}
    {Bad : Error → Prop} (works : setup.connection.WorksBy m.Moves)
    (foreseen : (setup.compiler library).Foresees Fine Bad) (tour : Call.Tour m Fine Bad)
    {tag : String} {turn t : Turn σ} {e : Error} (same : turn.library = library)
    (holds : tour.Holds turn.toDesk)
    (enters : ∀ desk chain, tour.Holds desk → library.chain? desk.cache tag = some chain →
      tour.Enters [] tag)
    (attempted : attempt setup tag turn = .failed e t) : Bad e := by
  have gets := Book.ends_get (m := m) (Compiler.foresees_any _) tag trivial same
  unfold attempt onBook Action.focus at attempted
  cases got : Book.get setup tag turn.toBook with
  | error e' book =>
    rw [got] at attempted
    cases attempted
  | ok chain book =>
    obtain ⟨-, advanced, counts⟩ := gets.of_ok got
    have noted := advanced.steps.tail (.asked book.toDesk book.conn
      (book.journal ++ [.ofTag "librarian" ("EXECUTE " ++ tag) tag]) (m.refl _))
    have runs := ends_runChain_advances works foreseen tour
      (Turn.noted { turn with toBook := book } ("EXECUTE " ++ tag) tag) advanced.library
      (tour.kept noted holds) (enters _ chain (tour.kept advanced.steps holds) counts) counts
    simp only [got] at attempted
    cases ran : runChain setup tag chain
        (Turn.noted { turn with toBook := book } ("EXECUTE " ++ tag) tag) with
    | error e' t' =>
      simp only [ran, Attempt.failed.injEq] at attempted
      exact attempted.1 ▸ (runs.of_error ran).2
    | ok affected t' => simp [ran] at attempted

theorem ofRun_of_attempt (blames : setup.connection.BlamesNoTemplate) {tag : String}
    {turn t : Turn σ} {e : Error} (traces : Book.Traces setup library lost turn.toBook)
    (attempted : attempt setup tag turn = .failed e t) : e.OfRun := by
  obtain ⟨same, traced⟩ := traces
  refine bad_of_attempt (Connection.MovesBy.any setup.connection).toWorksBy
    (Compiler.foresees_classified blames) (Compiler.tracedTour blames lost) same traced ?_ attempted
  exact fun desk chain traced counts => ⟨.singleton tag, traced.sound tag chain counts⟩

open Connection

theorem late_of_settle {came : Attempt σ} {tag : String} {e : Error} {after : Turn σ}
    (failed : settle setup tag came = .error e after) :
    came = .unobtained e after ∨ (∃ t, came = .failed e t) ∨ e.Late setup.connection := by
  cases came with
  | unobtained e' t =>
    cases failed
    exact .inl rfl
  | failed e' t =>
    let m := (setup.compiler t.library).classifying
    have ends : Action.Ends (abandon setup tag e' : Action (Turn σ) Int) t (fun _ _ => False)
        (fun e _ => e = e' ∨ e.Late setup.connection) := by
      rw [ends_abandon]
      have closing := Book.ends_closing (m := m) "ROLLBACK"
        { t.toBook with journal := t.journal ++ [.ofTag "librarian" ("ROLLBACK " ++ tag) tag] }
        rfl .rollback (Connection.MovesBy.any setup.connection).rollback
      apply closing.imp
      · exact fun _ _ _ => .inl rfl
      · exact fun _ _ failed => .inr failed.2
    rcases ends.of_error failed with rfl | late
    · exact .inr (.inl ⟨t, rfl⟩)
    · exact .inr (.inr late)
  | completed affected t =>
    let m := (setup.compiler t.library).classifying
    have closing := Book.ends_closing (m := m) "COMMIT" t.toBook rfl .commit
      (Connection.MovesBy.any setup.connection).commit
    rw [settle_completed] at failed
    split at failed
    · unfold onBook Action.focus at failed
      cases committed : Book.commit setup t.toBook with
      | ok _ book => simp [committed] at failed
      | error e' book =>
        simp only [committed, EStateM.Result.error.injEq] at failed
        have late := (closing.of_error committed).2
        exact .inr (.inr (failed.1 ▸ late))
    · cases failed

-- What an execution fails with comes from the compiler, from the run, or from the transaction.
theorem bad_of_execute {m : (setup.compiler library).Making} {Fine : String → Prop}
    {Bad : Error → Prop} (works : setup.connection.WorksBy m.Moves)
    (foreseen : (setup.compiler library).Foresees Fine Bad) (tour : Call.Tour m Fine Bad)
    {tag : String} {turn after : Turn σ} {e : Error} (same : turn.library = library)
    (fine : Fine tag) (holds : tour.Holds turn.toDesk) (enters : tour.Enters [] tag)
    (failed : execute setup tag turn = .error e after) : Bad e := by
  rw [execute_eq] at failed
  rcases late_of_settle failed with came | ⟨t, came⟩ | late
  · have gets := Book.ends_get (m := m) foreseen tag fine same
    unfold attempt onBook Action.focus at came
    cases got : Book.get setup tag turn.toBook with
    | error e' book =>
      simp only [got, Attempt.unobtained.injEq] at came
      obtain ⟨rfl, -⟩ := came
      rcases (gets.of_error got).2 with rfl | bad
      · exact tour.late _ (.of_kind rfl rfl)
      · exact bad
    | ok chain book =>
      simp only [got] at came
      split at came <;> cases came
  · exact bad_of_attempt works foreseen tour same holds (fun _ _ _ _ => enters) came
  · exact tour.late e late

theorem asked_of_compileError {setup : Setup σ} (blames : setup.connection.BlamesNoTemplate)
    {turn after : Turn (Recorded σ)} {tag : String} {e : Error}
    (traces : Book.Traces setup.recorded library lost turn.toBook)
    (failed : (execute setup.recorded tag).outcome turn = (.error e, after))
    (compiles : e.kind.isCompile = true) (shallow : ∀ limit chain, e ≠ .includeDepth limit chain) :
    after.data = turn.data ∧ Recorded.Adds Asked.isPrepare turn.conn after.conn := by
  have settled := Action.eq_error_of_outcome failed
  rw [execute_eq] at settled
  have asks := attempt_asks setup tag turn
  rcases late_of_settle settled with came | ⟨t', came⟩ | late
  · rwa [came] at asks
  · rcases ofRun_of_attempt blames.recorded traces came with late | ⟨limit, chain, deep⟩
    · simp [late] at compiles
    · exact absurd deep (shallow limit chain)
  · simp [late.not_compile blames.recorded] at compiles

end Turn

def Book.Links {σ : Type} (book : Book σ) (tag inner : String) : Prop :=
  ∃ chain, book.library.chain? book.cache tag = some chain ∧ inner ∈ chain.includes

open Connection in
/-- What a chain includes has a chain too, unless compiling that tag again has failed, and no chain
includes itself. So an error about a template comes before anything is executed. -/
theorem Book.chains_after_uses {σ : Type} (setup : Setup σ)
    (blames : setup.connection.BlamesNoTemplate) (start : Book (Recorded σ)) (uses : List Use)
    (fresh : start.cache = []) (compiles : ∀ u ∈ uses, u.compiles = true) :
    let book := after setup.recorded start uses
    (∀ tag inner, book.Links tag inner →
      (book.library.chain? book.cache inner).isSome ∨ inner ∈ dropped setup.recorded start uses) ∧
    (∀ tag, ¬ Relation.TransGen book.Links tag tag) ∧
    ∀ tag data e final, (Turn.execute setup.recorded tag).outcome ⟨book, data⟩ = (.error e, final) →
      e.kind.isCompile = true → (∀ limit chain, e ≠ .includeDepth limit chain) →
      final.data = data ∧ Recorded.Adds Asked.isPrepare book.conn final.conn := by
  intro book
  have traces : Traces setup.recorded start.library _ book :=
    traces_after compiles ⟨rfl, .empty fresh⟩
  have traced := traces.2
  rw [← traces.1] at traced
  refine ⟨?_, fun tag => traced.acyclic, ?_⟩
  · intro tag inner linked
    obtain ⟨chain, counts, member⟩ := linked
    have closed := traced.closed tag chain counts inner member
    rwa [List.append_nil] at closed
  · exact fun tag data e final failed => Turn.asked_of_compileError blames traces failed

def Connection.limited : Connection Nat :=
  { Connection.willing with
    prepare := fun sql _ left =>
      match left with
      | 0 => .error (.foreign "Error" "no more texts") 0
      | left + 1 => .ok ⟨left, sql⟩ left }

namespace Book

open Connection

def limitedSetup : Setup Nat where
  connection := .limited
  placement := .plain
  style := none
  warnBareColumns := false
  dialect := none
  parse := fun _ _ => .other
  maxDepth := 8

def limitedBook (desk : Desk (Recorded Nat)) : Book (Recorded Nat) where
  toDesk := desk
  library := .nested
  connected := true
  autocommit := true

theorem blamesNoTemplate_limited : Connection.limited.BlamesNoTemplate := by
  intro e own raised
  cases raised with
  | @prepare _ _ left _ answered => cases left <;> cases answered
  | _ answered => cases answered

theorem chains_after_two_compiles :
    let start := limitedBook ⟨⟨[], []⟩, ⟨1, []⟩⟩
    let uses : List Use := [.compile "outer", .compile "inner"]
    let book := after limitedSetup.recorded start uses
    limitedSetup.connection.BlamesNoTemplate ∧
    start.cache = [] ∧ (∀ u ∈ uses, u.compiles = true) ∧
    (∀ tag inner, book.Links tag inner →
      (book.library.chain? book.cache inner).isSome ∨
        inner ∈ dropped limitedSetup.recorded start uses) ∧
    (∀ tag, ¬ Relation.TransGen book.Links tag tag) ∧
    ∀ tag data e final,
      (Turn.execute limitedSetup.recorded tag).outcome ⟨book, data⟩ = (.error e, final) →
      e.kind.isCompile = true → (∀ limit chain, e ≠ .includeDepth limit chain) →
      final.data = data ∧ Recorded.Adds Asked.isPrepare book.conn final.conn := by
  have compiles : ∀ u ∈ [Use.compile "outer", Use.compile "inner"], u.compiles = true := by decide
  exact ⟨blamesNoTemplate_limited, rfl, compiles,
    chains_after_uses limitedSetup blamesNoTemplate_limited _ _ rfl compiles⟩

theorem ends_makeStatement_limited (tag : String) (desk : Desk (Recorded Nat)) :
    Action.Ends ((limitedSetup.recorded.compiler .nested).makeStatement tag "x") desk
      (fun _ t => t.cache = desk.cache ∧ t.conn.state + 1 = desk.conn.state)
      (fun _ t => t.cache = desk.cache ∧ desk.conn.state = 0) := by
  apply Compiler.ends_makeStatement_plain tag rfl
  change Action.Ends (record (fun _ => .prepare _ _) (Connection.limited.prepare _ _)) _ _ _
  rw [ends_record]
  unfold Action.Ends Connection.limited
  cases left : desk.conn.state with
  | zero => simp
  | succ left => exact ⟨rfl, rfl⟩

theorem ends_compileUnder_inner (path : List String) (fresh : "inner" ∉ path)
    (desk : Desk (Recorded Nat)) :
    Action.Ends ((limitedSetup.recorded.compiler .nested).compileUnder path "inner" fresh) desk
      (fun _ t => t.conn.state + 1 = desk.conn.state)
      (fun _ t => desk.conn.state = 0 ∧ ∃ source, t.cache =
        desk.cache.put "inner" ⟨source, Library.nested.fingerprint source, none⟩) := by
  have compiled := @Compiler.ends_compileUnder_single _ (limitedSetup.recorded.compiler .nested)
    "inner" "x" rfl Library.statements_inner rfl path fresh desk
    (fun _ conn => conn.state + 1 = desk.conn.state) (fun _ _ => desk.conn.state = 0)
    fun catalog => ends_makeStatement_limited "inner" ⟨catalog, desk.conn⟩
  apply compiled.imp
  · intro chain t ended
    obtain ⟨⟨_, -, left⟩, -⟩ := ended
    exact left
  · exact fun _ _ failed => failed

theorem ends_compile_outer (desk : Desk (Recorded Nat)) (fresh : desk.cache = []) :
    Action.Ends ((limitedSetup.recorded.compiler .nested).compile "outer") desk
      (fun _ t => t.conn.state + 1 = desk.conn.state) (fun _ _ => desk.conn.state = 0) := by
  rw [Compiler.compile, Compiler.compileUnder_eq, Action.ends_bind, Desk.ends_onCatalog]
  apply Catalog.ends_find
  · intro body source journal found _
    have same : body = "include inner" := by
      have held : Library.nested.template "outer" = .ok "include inner" := rfl
      exact Except.ok.inj (found.symm.trans held)
    subst same
    simp only [Compiler.compileBody, Library.statements_outer, List.mapM_cons, List.mapM_nil,
      Action.ends_bind, Desk.ends_onCatalog, Catalog.note, Action.ends_modify,
      Action.ends_mapError, Action.ends_pure,
      Compiler.compileBlock, Action.ends_ofExcept,
      show Template.includedTag "include inner" = .ok (some "inner") from rfl]
    rw [dif_neg (by decide)]
    simp only [Action.ends_bind, Desk.ends_onCatalog]
    apply Catalog.ends_lookup
    intro journal'
    have unmade : Library.nested.chain?
        (desk.cache.put "outer" ⟨source, Library.nested.fingerprint source, none⟩) "inner" =
        none := by
      rw [Library.chain?_found, fresh]
      rfl
    simp only [show (limitedSetup.recorded.compiler .nested).library = .nested from rfl, unmade,
      Action.ends_discard, Action.ends_bind, Action.ends_pure]
    let m := (limitedSetup.recorded.compiler .nested).classifying
    have walk : ["outer", "inner"].IsChain Library.nested.Includes :=
      .cons_cons (Library.includes_nested.mpr ⟨rfl, rfl⟩) (.singleton "inner")
    have apart := Compiler.ends_compileUnder m (Compiler.foresees_any _) ["outer"] (by decide)
      "inner" (by decide) walk trivial
      ⟨⟨desk.cache.put "outer" ⟨source, Library.nested.fingerprint source, none⟩, journal'⟩,
        desk.conn⟩ unmade
    apply (apart.and (ends_compileUnder_inner ["outer"] (by decide) _)).imp
    · intro chain t ended
      obtain ⟨⟨apart, -⟩, left⟩ := ended
      have held : t.cache.get? "outer" =
          some ⟨source, Library.nested.fingerprint source, none⟩ := by
        rw [apart.same "outer" (by simp)]
        exact Keyed.get?_put_self ..
      exact Catalog.ends_store held fun _ => left
    · intro e t failed
      obtain ⟨-, left, -⟩ := failed
      exact left
  · intro e journal missing
    cases missing

/-- The second compilation fails, and the inner tag loses the chain that the outer one relies on. -/
theorem exists_link_without_chain :
    ∃ uses : List Use, (∀ u ∈ uses, u.compiles = true) ∧
      let book := after limitedSetup.recorded (limitedBook ⟨⟨[], []⟩, ⟨1, []⟩⟩) uses
      book.Links "outer" "inner" ∧ book.library.chain? book.cache "inner" = none := by
  refine ⟨[.compile "outer", .compile "inner"], by decide, ?_⟩
  let c := limitedSetup.recorded.compiler .nested
  have first : Action.Ends (use limitedSetup.recorded (.compile "outer"))
      (limitedBook ⟨⟨[], []⟩, ⟨1, []⟩⟩)
      (fun _ t => ∃ desk, t = limitedBook desk ∧ desk.conn.state = 0 ∧ t.Links "outer" "inner")
      (fun _ t => ∃ desk, t = limitedBook desk ∧ desk.conn.state = 0 ∧
        t.Links "outer" "inner") := by
    rw [ends_compileUse]
    apply ((ends_compile_outer _ rfl).and
      (Compiler.ends_compile c.classifying c.foresees_any "outer" trivial _)).imp
    · intro chain desk ended
      obtain ⟨left, -, counts, chainOf⟩ := ended
      exact ⟨desk, rfl, Nat.succ.inj left, chain, counts,
        chainOf.mem_includes_iff.mpr (Library.includes_nested.mpr ⟨rfl, rfl⟩)⟩
    · intro e t failed
      obtain ⟨left, -⟩ := failed
      cases left
  obtain ⟨desk, same, left, links⟩ := first.outcome
  have second : Action.Ends (use limitedSetup.recorded (.compile "inner")) (limitedBook desk)
      (fun _ t => t.Links "outer" "inner" ∧ t.library.chain? t.cache "inner" = none)
      (fun _ t => t.Links "outer" "inner" ∧ t.library.chain? t.cache "inner" = none) := by
    rw [ends_compileUse]
    apply (ends_compileUnder_inner [] (by simp) desk).imp
    · intro _ t more
      rw [left] at more
      cases more
    · intro e t failed
      obtain ⟨-, source, cached⟩ := failed
      rw [same] at links
      obtain ⟨chain, counts, member⟩ := links
      refine ⟨⟨chain, ?_, member⟩, ?_⟩
      · change Library.nested.chain? t.cache "outer" = some chain
        rw [cached, Library.chain?_found]
        exact counts
      · change Library.nested.chain? t.cache "inner" = none
        rw [cached, Library.chain?_found]
        rfl
  rw [← same] at second
  exact second.outcome

end Book

end QueryBook
