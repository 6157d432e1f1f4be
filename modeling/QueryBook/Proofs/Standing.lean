import QueryBook.Proofs.Includes

set_option autoImplicit false

namespace QueryBook

open QueryBook.Action Connection

namespace Connection

def Asked.isExecute : Asked → Bool
  | .execute _ _ _ => true
  | _ => false

-- Something has been executed, and no rollback was asked for afterwards.
def Stands (asked : List Asked) : Prop :=
  ∃ before q after, asked = before ++ q :: after ∧ q.isExecute = true ∧ .rollback ∉ after

theorem not_stands_of_rollback (asked : List Asked) : ¬ Stands (asked ++ [.rollback]) := by
  intro stands
  obtain ⟨before, q, after, same, executes, kept⟩ := stands
  rcases List.eq_nil_or_concat after with rfl | ⟨middle, last, rfl⟩
  · obtain ⟨-, rfl⟩ := List.append_inj_right' same rfl
    cases executes
  · rw [List.concat_eq_append] at same kept
    rw [← List.cons_append, ← List.append_assoc] at same
    obtain rfl : Asked.rollback = last := by simpa using (List.append_inj' same rfl).2
    exact kept (by simp)

theorem not_stands_of_idle {asked : List Asked} (idle : ∀ q ∈ asked, q.isExecute = false) :
    ¬ Stands asked := by
  intro stands
  obtain ⟨before, q, after, rfl, executes, -⟩ := stands
  simp [idle q (by simp)] at executes

theorem stands_of_commit {work : List Asked} (works : ∀ q ∈ work, q.isWork = true)
    (executed : ∃ q ∈ work, q.isExecute = true) : Stands (work ++ [.commit]) := by
  obtain ⟨q, member, executes⟩ := executed
  obtain ⟨before, after, rfl⟩ := List.append_of_mem member
  refine ⟨before, q, after ++ [.commit], by simp, executes, ?_⟩
  intro rolled
  rcases List.mem_append.mp rolled with rolled | rolled
  · cases works .rollback (by simp [rolled])
  · cases List.mem_singleton.mp rolled

theorem Asked.isExecute_of_isPrepare {q : Asked} (prepares : q.isPrepare = true) :
    q.isExecute = false := by
  cases q with
  | prepare sql n => rfl
  | _ => cases prepares

theorem Asked.answer?_of_idle {q : Asked} (idle : q.isExecute = false) :
    q.effect?.bind Effect.answer? = none := by
  cases q with
  | execute h values answer => cases idle
  | _ => rfl

variable {σ : Type} {s t : Recorded σ}

theorem answers_of_idle {work : List Asked} (asked : t.asked = s.asked ++ work)
    (idle : ∀ q ∈ work, q.isExecute = false) : t.answers = s.answers := by
  have unanswered : work.filterMap (fun q => q.effect?.bind Effect.answer?) = [] :=
    List.filterMap_eq_nil_iff.mpr fun q member => Asked.answer?_of_idle (idle q member)
  simp only [Recorded.answers, Recorded.effects, List.filterMap_filterMap, asked,
    List.filterMap_append, unanswered, List.append_nil]

end Connection

namespace Call

variable {σ : Type} {setup : Setup σ} {library : Library}

def Counted (call t : Call (Recorded σ)) : Prop :=
  ∃ answers, t.conn.answers = call.conn.answers ++ answers ∧
    (answers = [] → t.session.affected = call.session.affected)

theorem Counted.refl (call : Call (Recorded σ)) : Counted call call :=
  ⟨[], by simp⟩

theorem Counted.trans {call t u : Call (Recorded σ)} (first : Counted call t)
    (second : Counted t u) : Counted call u := by
  obtain ⟨answers, same, counts⟩ := first
  obtain ⟨more, same', counts'⟩ := second
  refine ⟨answers ++ more, by rw [same', same, List.append_assoc], fun none => ?_⟩
  obtain ⟨rfl, rfl⟩ := List.append_eq_nil_iff.mp none
  exact (counts' rfl).trans (counts rfl)

theorem ends_runStatement_counted (s : Statement) (call : Call (Recorded σ)) :
    Ends (runStatement setup.recorded.connection s) call (fun _ t => Counted call t)
      (fun _ _ => True) := by
  simp only [runStatement, ends_bind, ends_onStage, ends_onSession, ends_modify]
  apply (Statement.ends_execute_counted s call.stage).imp
  · intro n t ended
    obtain ⟨answer, answered, -⟩ := ended
    exact ⟨[answer], answered, fun none => by cases none⟩
  · exact fun _ _ _ => trivial

theorem ends_runEntries_counted {runTag : String → Action (Call (Recorded σ)) Unit}
    (each : ∀ tag call, Ends (runTag tag) call (fun _ t => Counted call t) (fun _ _ => True))
    (entries : List ChainEntry) (call : Call (Recorded σ)) :
    Ends (runEntries setup.recorded.connection runTag entries) call (fun _ t => Counted call t)
      (fun _ _ => True) := by
  induction entries generalizing call with
  | nil => exact .refl call
  | cons entry rest ih =>
    have goes_on {t : Call (Recorded σ)} (counted : Counted call t) :
        Ends (runEntries setup.recorded.connection runTag rest) t (fun _ u => Counted call u)
          (fun _ _ => True) :=
      (ih t).imp (fun _ _ => counted.trans) fun _ _ _ => trivial
    cases entry with
    | statement s =>
      simp only [runEntries, ends_bind]
      exact (ends_runStatement_counted s call).imp (fun _ _ => goes_on) fun _ _ _ => trivial
    | inclusion tag =>
      simp only [runEntries, ends_bind]
      exact (each tag call).imp (fun _ _ => goes_on) fun _ _ _ => trivial

theorem ends_runInclude_counted (limit room : Nat) (tag : String) (call : Call (Recorded σ)) :
    Ends (runInclude (setup.recorded.compiler library) limit room tag) call
      (fun _ t => Counted call t) (fun _ _ => True) := by
  induction room generalizing tag call with
  | zero =>
    simp only [runInclude, ends_bind, ends_get]
    split
    · trivial
    · trivial
  | succ room ih =>
    simp only [runInclude, ends_bind, ends_get]
    split
    · trivial
    · simp only [ends_bind, ends_onDesk, ends_noteInclude, ends_within]
      apply (Compiler.ends_get (Turn.askedToCompile setup library) (Compiler.foresees_any _) tag
        trivial call.toDesk).imp
      · intro chain desk ended
        obtain ⟨work, asked, prepares⟩ := ended.1.moves
        have idle : ∀ q ∈ work, q.isExecute = false :=
          fun q member => Asked.isExecute_of_isPrepare (prepares q member)
        apply (ends_runEntries_counted ih chain.entries _).imp
        · intro _ t counted
          obtain ⟨answers, answered, counts⟩ := counted
          exact ⟨answers, answered.trans (congrArg (· ++ answers) (answers_of_idle asked idle)),
            counts⟩
        · exact fun _ _ _ => trivial
      · exact fun _ _ _ => trivial

end Call

namespace Turn

variable {σ : Type} {setup : Setup σ} {tag : String} {turn t : Turn (Recorded σ)} {affected : Int}

theorem executed_of_completed {work : List Asked}
    (completed : attempt setup.recorded tag turn = .completed affected t)
    (asked : t.conn.asked = turn.conn.asked ++ work) (rows : affected ≠ 0) :
    ∃ q ∈ work, q.isExecute = true := by
  have gets := Book.ends_get (m := askedToCompile setup turn.library)
    (Compiler.foresees_any _) tag trivial (rfl : turn.toBook.library = turn.library)
  unfold attempt onBook Action.focus at completed
  cases got : Book.get setup.recorded tag turn.toBook with
  | error e book =>
    rw [got] at completed
    cases completed
  | ok chain book =>
    obtain ⟨-, advanced, -⟩ := gets.of_ok got
    obtain ⟨prepared, compiled, prepares⟩ := advanced.steps.moves
    have quiet : book.conn.answers = turn.conn.answers :=
      answers_of_idle compiled fun q member => Asked.isExecute_of_isPrepare (prepares q member)
    have runs : Ends (runChain setup.recorded tag chain)
        (noted { turn with toBook := book } ("EXECUTE " ++ tag) tag)
        (fun n u => ∃ answers, u.conn.answers = book.conn.answers ++ answers ∧
          (answers = [] → n = 0)) (fun _ _ => True) := by
      rw [ends_runChain]
      exact Call.ends_runEntries_counted (Call.ends_runInclude_counted _ _) chain.entries _
    simp only [got] at completed
    cases ran : runChain setup.recorded tag chain
        (noted { turn with toBook := book } ("EXECUTE " ++ tag) tag) with
    | error e u => simp [ran] at completed
    | ok n u =>
      simp only [ran, Attempt.completed.injEq] at completed
      obtain ⟨rfl, rfl⟩ := completed
      obtain ⟨answers, answered, counts⟩ := runs.of_ok ran
      by_contra idle
      have same : u.conn.answers = turn.conn.answers :=
        answers_of_idle asked (by simpa using idle)
      rw [answered, quiet] at same
      exact rows (counts (by simpa using same))

/-- A failed execution asks for a rollback after everything that it has executed, unless it fails in
its own commit. -/
theorem stands_iff_commit_refused {after : Turn (Recorded σ)} {e : Error}
    (failed : (execute setup.recorded tag).outcome turn = (.error e, after)) :
    ∃ asked, after.conn.asked = turn.conn.asked ++ asked ∧
      (Stands asked ↔ ∃ affected t f state,
        attempt setup.recorded tag turn = .completed affected t ∧ affected ≠ 0 ∧
          turn.autocommit = true ∧ setup.connection.commit t.conn.state = .error f state ∧
          e = .wrapFault none f) := by
  have asks := attempt_asks setup tag turn
  simp only [Action.outcome, execute_eq] at failed
  cases came : attempt setup.recorded tag turn with
  | unobtained e' t =>
    rw [came] at asks failed
    obtain ⟨-, work, asked, prepares⟩ := asks
    simp only [settle, Prod.mk.injEq] at failed
    obtain ⟨-, rfl⟩ := failed
    have stays : ¬ Stands work :=
      not_stands_of_idle fun q member => Asked.isExecute_of_isPrepare (prepares q member)
    exact ⟨work, asked, by simp [stays]⟩
  | failed e' t =>
    rw [came] at asks failed
    obtain ⟨connected, -, work, asked, -⟩ := asks
    have ends := ends_abandon_recorded setup tag e' connected
    cases abandoned : (abandon setup.recorded tag e' : Action _ Int) t with
    | ok affected u => exact (ends.of_ok abandoned).elim
    | error e'' u =>
      simp only [settle, abandoned, Prod.mk.injEq] at failed
      obtain ⟨-, rfl⟩ := failed
      obtain ⟨-, ending, -⟩ := ends.of_error abandoned
      refine ⟨work ++ [.rollback], by rw [ending, asked, List.append_assoc], ?_⟩
      simp [not_stands_of_rollback]
  | completed affected t =>
    rw [came] at asks failed
    obtain ⟨connected, autocommit, work, asked, works⟩ := asks
    rw [settle_completed, autocommit] at failed
    by_cases commits : affected ≠ 0 ∧ turn.autocommit = true
    · have ends := ends_commit_recorded setup connected
      cases committed : onBook (Book.commit setup.recorded) t with
      | ok _ u => simp [commits, committed] at failed
      | error e' u =>
        simp only [if_pos commits, committed, Prod.mk.injEq, Except.error.injEq] at failed
        obtain ⟨rfl, rfl⟩ := failed
        obtain ⟨-, ending, f, state, refused, shown⟩ := ends.of_error committed
        refine ⟨work ++ [.commit], by rw [ending, asked, List.append_assoc], ?_⟩
        have executed := executed_of_completed came asked commits.1
        exact iff_of_true (stands_of_commit works executed)
          ⟨affected, t, f, state, rfl, commits.1, commits.2, refused, shown⟩
    · simp [commits] at failed

end Turn

def Connection.refusing : Connection Unit :=
  { Connection.willing with
    execute := fun _ _ => pure (some 1)
    commit := throw (.foreign "RuntimeError" "disk full") }

namespace Turn

def refusingSetup : Setup Unit where
  connection := .refusing
  placement := .plain
  style := none
  warnBareColumns := false
  dialect := none
  parse := fun _ _ => .other
  maxDepth := 8

def refusingTurn : Turn (Recorded Unit) where
  toBook := .inMemory [("outer", "include inner"), ("inner", "x")] .empty ⟨⟨(), []⟩, []⟩ true
  data := []

def refusedText : MarkedText :=
  .ofText .question "x"

def refusedStatement : Statement :=
  ⟨"x", .mutation, refusedText, .plain, some ⟨0, refusedText.sql⟩⟩

theorem bindNames_refusedText : refusedText.bindNames = [] :=
  MarkedText.bindNames_of_plain (by decide)

theorem ends_get_refusing :
    Ends (Book.get refusingSetup.recorded "inner") refusingTurn.toBook
      (fun chain t => chain = ⟨"inner", [.statement refusedStatement]⟩ ∧
        t.conn.asked = [.prepare refusedText.sql 0])
      (fun _ _ => False) := by
  have makes (catalog : Catalog) :
      Ends ((refusingSetup.recorded.compiler .nested).makeStatement "inner" "x")
        ⟨catalog, refusingTurn.conn⟩
        (fun st t => t.cache = catalog.cache ∧
          st = refusedStatement ∧ t.conn.asked = [.prepare refusedText.sql 0])
        (fun _ t => t.cache = catalog.cache ∧ False) := by
    apply Compiler.ends_makeStatement_plain "inner" rfl
    change Ends (record (fun _ => .prepare refusedText.sql refusedText.bindNames.length)
      (Connection.refusing.prepare refusedText.sql refusedText.bindNames.length)) _ _ _
    rw [ends_record, bindNames_refusedText]
    exact ⟨rfl, rfl, rfl⟩
  have connected : refusingTurn.connected = true := rfl
  simp only [Book.get, Compiler.get, ends_bind, Book.ends_ensureConnected, connected, if_true,
    Book.ends_library?, Book.ends_onDesk, Desk.ends_onCatalog]
  apply Catalog.ends_lookup
  intro journal
  have compiled := @Compiler.ends_compileUnder_single _ (refusingSetup.recorded.compiler .nested)
    "inner" "x" rfl Library.statements_inner rfl [] (by simp) ⟨⟨[], journal⟩, refusingTurn.conn⟩
    (fun st conn => st = refusedStatement ∧ conn.asked = [.prepare refusedText.sql 0])
    (fun _ _ => False) makes
  apply compiled.imp
  · intro chain t ended
    obtain ⟨⟨st, rfl, rfl, asked⟩, -⟩ := ended
    exact ⟨rfl, asked⟩
  · exact fun _ _ failed => failed.1

theorem ends_execute_refused (stage : Stage (Recorded Unit)) :
    Ends (refusedStatement.execute refusingSetup.recorded.connection) stage
      (fun n t => n = 1 ∧ t.conn.asked = stage.conn.asked ++
        [.execute ⟨0, refusedText.sql⟩ [] (.ok (some 1))])
      (fun _ _ => False) := by
  have ready : refusedStatement.ready refusingSetup.recorded.connection stage.data =
      pure (refusedText.sql, ⟨0, refusedText.sql⟩) := rfl
  have parameters : refusedStatement.parameters stage.data = .ok [] := by
    simp [Statement.parameters, refusedStatement, bindNames_refusedText, pure, Except.pure]
  simp only [Statement.execute, ends_bind, ends_get, Stage.ends_onLink, Stage.ends_onConn,
    ready, ends_pure, parameters, ends_ofExcept]
  exact ⟨rfl, rfl⟩

theorem ends_execute_refusing :
    Ends (execute refusingSetup.recorded "inner") refusingTurn (fun _ _ => False)
      (fun _ t => t.conn.asked = [.prepare refusedText.sql 0] ++
        [.execute ⟨0, refusedText.sql⟩ [] (.ok (some 1))] ++ [.commit]) := by
  have gets := Book.ends_get (m := askedToCompile refusingSetup .nested)
    (Compiler.foresees_any _) "inner" trivial (rfl : refusingTurn.library = .nested)
  simp only [execute, ends_bind, ends_onBook, Book.ends_noteTag, ends_rescue]
  apply (ends_get_refusing.and gets).imp
  · intro chain book ended
    obtain ⟨⟨rfl, asked⟩, up, advanced, -⟩ := ended
    simp only [ends_runChain, Call.runChain, Call.runEntries, Call.runStatement, ends_bind,
      Call.ends_onStage, Call.ends_onSession, ends_modify, ends_pure]
    apply (ends_execute_refused _).imp
    · intro n t ended
      obtain ⟨rfl, executed⟩ := ended
      have one : (Session.start "inner").affected + ((1 : Nat) : Int) ≠ 0 := by decide
      rw [ends_get, if_pos ⟨one, advanced.autocommit⟩, ends_bind]
      apply (ends_commit_recorded refusingSetup _).imp
      · intro _ _ committed
        obtain ⟨-, -, _, done⟩ := committed
        cases done
      · intro e u failed
        obtain ⟨-, committed, -⟩ := failed
        rw [committed, ← asked]
        exact congrArg (· ++ [.commit]) executed
      · exact advanced.connected.trans up
    · exact fun _ _ failed => failed.elim
  · exact fun _ _ failed => failed.1.elim

theorem exists_stands :
    Book.Reached refusingSetup.recorded refusingTurn.toBook ∧ refusingTurn.connected = true ∧
    ∃ e after asked,
      (execute refusingSetup.recorded "inner").outcome refusingTurn = (.error e, after) ∧
      after.conn.asked = refusingTurn.conn.asked ++ asked ∧ Stands asked := by
  refine ⟨⟨_, _, _, _, [], rfl⟩, rfl, ?_⟩
  cases ran : execute refusingSetup.recorded "inner" refusingTurn with
  | ok n after => exact (ends_execute_refusing.of_ok ran).elim
  | error e after =>
    have asked := ends_execute_refusing.of_error ran
    exact ⟨e, after, _, by simp only [Action.outcome, ran], asked,
      [.prepare refusedText.sql 0], _, [.commit], rfl, rfl, by simp⟩

theorem stands_iff_commit_refused_inner :
    ∃ e after, (execute refusingSetup.recorded "inner").outcome refusingTurn = (.error e, after) ∧
    ∃ asked, after.conn.asked = refusingTurn.conn.asked ++ asked ∧
      (Stands asked ↔ ∃ affected t f state,
        attempt refusingSetup.recorded "inner" refusingTurn = .completed affected t ∧
          affected ≠ 0 ∧ refusingTurn.autocommit = true ∧
          refusingSetup.connection.commit t.conn.state = .error f state ∧
          e = .wrapFault none f) := by
  cases ran : execute refusingSetup.recorded "inner" refusingTurn with
  | ok n after => exact (ends_execute_refusing.of_ok ran).elim
  | error e after =>
    have failed : (execute refusingSetup.recorded "inner").outcome refusingTurn =
        (.error e, after) := by
      simp only [Action.outcome, ran]
    exact ⟨e, after, failed, stands_iff_commit_refused failed⟩

end Turn

end QueryBook
