import QueryBook.Proofs.Entries

set_option autoImplicit false

namespace QueryBook

inductive Attempt (σ : Type) where
  | unobtained (e : Error) (turn : Turn σ)
  | failed (e : Error) (turn : Turn σ)
  | completed (affected : Int) (turn : Turn σ)

namespace Turn

variable {σ : Type}

def noted (turn : Turn σ) (message tag : String) : Turn σ :=
  { turn with journal := turn.journal ++ [.ofTag "librarian" message tag] }

theorem noteTag_eq (message tag : String) (turn : Turn σ) :
    onBook (Book.noteTag message tag) turn = .ok () (turn.noted message tag) :=
  rfl

def attempt (setup : Setup σ) (tag : String) (turn : Turn σ) : Attempt σ :=
  match onBook (Book.get setup tag) turn with
  | .error e t => .unobtained e t
  | .ok chain t =>
    match runChain setup tag chain (t.noted ("EXECUTE " ++ tag) tag) with
    | .error e t => .failed e t
    | .ok affected t => .completed affected t

def settle (setup : Setup σ) (tag : String) : Attempt σ → EStateM.Result Error (Turn σ) Int
  | .unobtained e t => .error e t
  | .failed e t => abandon setup tag e t
  | .completed affected t =>
    (do
      if affected ≠ 0 ∧ (← get).autocommit then
        onBook (Book.commit setup)
      pure affected : Action (Turn σ) Int) t

theorem settle_completed (setup : Setup σ) (tag : String) (affected : Int) (t : Turn σ) :
    settle setup tag (.completed affected t) =
      if affected ≠ 0 ∧ t.autocommit then
        match onBook (Book.commit setup) t with
        | .ok _ after => .ok affected after
        | .error e after => .error e after
      else .ok affected t := by
  simp only [settle, Action.get_bind_apply]
  split
  · simp only [bind, EStateM.bind]
    cases onBook (Book.commit setup) t <;> rfl
  · rfl

theorem ends_abandon_fails {α : Type} (setup : Setup σ) (tag : String) (e : Error) (turn : Turn σ) :
    Action.Ends (abandon setup tag e : Action (Turn σ) α) turn (fun _ _ => False)
      (fun _ _ => True) := by
  rw [ends_abandon]
  exact (Action.ends_self _ _).imp (fun _ _ _ => trivial) fun _ _ _ => trivial

theorem execute_eq (setup : Setup σ) (tag : String) (turn : Turn σ) :
    execute setup tag turn = settle setup tag (attempt setup tag turn) := by
  unfold execute attempt
  simp only [bind, EStateM.bind]
  cases onBook (Book.get setup tag) turn with
  | error e t => rfl
  | ok chain t =>
    simp only [noteTag_eq, Action.rescue]
    cases runChain setup tag chain (t.noted ("EXECUTE " ++ tag) tag) with
    | ok affected t => rfl
    | error e t =>
      simp only [settle]
      cases abandoned : (abandon setup tag e : Action (Turn σ) Int) t with
      | ok affected after => exact ((ends_abandon_fails setup tag e t).of_ok abandoned).elim
      | error e after => rfl

end Turn

open Connection

def Setup.recorded {σ : Type} (setup : Setup σ) : Setup (Recorded σ) :=
  { setup with connection := setup.connection.recorded }

def Attempt.ending {σ : Type} (autocommit : Bool) : Attempt σ → List Asked
  | .unobtained _ _ => []
  | .failed _ _ => [.rollback]
  | .completed affected _ => if affected ≠ 0 ∧ autocommit then [.commit] else []

namespace Turn

variable {σ : Type} {setup : Setup σ} {tag : String} {turn : Turn (Recorded σ)}

def askedToCompile (setup : Setup σ) (library : Library) :
    (setup.recorded.compiler library).Making :=
  .ofMoves _ (Recorded.Adds Asked.isPrepare) (Recorded.Adds.refl _) Recorded.Adds.trans
    fun sql n => Recorded.ends_adds (fun _ => .prepare sql n) _ fun _ => rfl

def askedToRun (setup : Setup σ) (library : Library) : (setup.recorded.compiler library).Making :=
  let works := worksBy_adds setup.connection
  .ofMoves _ (Recorded.Adds Asked.isWork) works.refl works.trans works.prepare

theorem attempt_asks (setup : Setup σ) (tag : String) (turn : Turn (Recorded σ)) :
    match attempt setup.recorded tag turn with
    | .unobtained _ t => t.data = turn.data ∧ Recorded.Adds Asked.isPrepare turn.conn t.conn
    | .failed _ t | .completed _ t =>
      t.connected = true ∧ t.autocommit = turn.autocommit ∧
        Recorded.Adds Asked.isWork turn.conn t.conn := by
  have gets := Book.ends_get (m := askedToCompile setup turn.library)
    (Compiler.foresees_any _) tag trivial (rfl : turn.toBook.library = turn.library)
  unfold attempt onBook Action.focus
  cases got : Book.get setup.recorded tag turn.toBook with
  | error e book => exact ⟨rfl, (gets.of_error got).1.steps.moves⟩
  | ok chain book =>
    obtain ⟨connected, advanced, counts⟩ := gets.of_ok got
    have runs := ends_runChain_advances (m := askedToRun setup turn.library)
      (worksBy_adds setup.connection) (Compiler.foresees_any _) (.any _)
      (noted { turn with toBook := book } ("EXECUTE " ++ tag) tag) advanced.library trivial
      trivial counts
    have added {t : Recorded σ} (work : Recorded.Adds Asked.isWork book.conn t) :
        Recorded.Adds Asked.isWork turn.conn t :=
      (advanced.steps.moves.imp Asked.isWork_of_isPrepare).trans work
    simp only
    cases ran : runChain setup.recorded tag chain
        (noted { turn with toBook := book } ("EXECUTE " ++ tag) tag) with
    | error e t =>
      obtain ⟨after, -⟩ := runs.of_error ran
      exact ⟨after.connected.trans (advanced.connected.trans connected),
        after.autocommit.trans advanced.autocommit, added after.steps.moves⟩
    | ok affected t =>
      obtain ⟨after, -⟩ := runs.of_ok ran
      exact ⟨after.connected.trans (advanced.connected.trans connected),
        after.autocommit.trans advanced.autocommit, added after.steps.moves⟩

theorem ends_abandon_recorded (setup : Setup σ) (tag : String) (e : Error)
    {turn : Turn (Recorded σ)} (connected : turn.connected = true) :
    Action.Ends (abandon setup.recorded tag e : Action _ Int) turn (fun _ _ => False)
      (fun e' t => t.data = turn.data ∧ t.conn.asked = turn.conn.asked ++ [.rollback] ∧
        match setup.connection.rollback turn.conn.state with
        | .ok _ _ => e' = e
        | .error f _ => e' = .wrapFault none f) := by
  simp only [ends_abandon, Book.rollback, Action.ends_bind, Book.ends_note,
    Book.ends_ensureConnected, connected, if_true, Book.ends_ask, Setup.recorded,
    Connection.recorded, ends_record]
  unfold Action.Ends
  cases setup.connection.rollback turn.conn.state <;> simp

theorem ends_commit_recorded (setup : Setup σ) {turn : Turn (Recorded σ)}
    (connected : turn.connected = true) :
    Action.Ends (onBook (Book.commit setup.recorded)) turn
      (fun _ t => t.data = turn.data ∧ t.conn.asked = turn.conn.asked ++ [.commit] ∧
        ∃ state, setup.connection.commit turn.conn.state = .ok () state)
      (fun e t => t.data = turn.data ∧ t.conn.asked = turn.conn.asked ++ [.commit] ∧
        ∃ f state, setup.connection.commit turn.conn.state = .error f state ∧
          e = .wrapFault none f) := by
  simp only [Book.commit, Action.ends_bind, ends_onBook, Book.ends_note,
    Book.ends_ensureConnected, connected, if_true, Book.ends_ask, Setup.recorded,
    Connection.recorded, ends_record]
  unfold Action.Ends
  cases setup.connection.commit turn.conn.state <;> simp

def Gives (setup : Setup σ) (turn : Turn (Recorded σ)) (work : List Asked)
    (result : Except Error Int) (data : Fields) : Attempt (Recorded σ) → Prop
  | .unobtained e _ => result = .error e ∧ data = turn.data ∧ ∀ q ∈ work, q.isPrepare = true
  | .failed e t =>
    data = t.data ∧
      match setup.connection.rollback t.conn.state with
      | .ok _ _ => result = .error e
      | .error f _ => result = .error (.wrapFault none f)
  | .completed affected t =>
    data = t.data ∧
      if affected ≠ 0 ∧ turn.autocommit then
        match setup.connection.commit t.conn.state with
        | .ok _ _ => result = .ok affected
        | .error f _ => result = .error (.wrapFault none f)
      else result = .ok affected

theorem execute_attempted (setup : Setup σ) (tag : String) (turn : Turn (Recorded σ)) :
    ∃ work result after,
      (execute setup.recorded tag).outcome turn = (result, after) ∧
      (∀ q ∈ work, q.isWork = true) ∧
      after.conn.asked = turn.conn.asked ++ work ++
        (attempt setup.recorded tag turn).ending turn.autocommit ∧
      Gives setup turn work result after.data (attempt setup.recorded tag turn) := by
  have asks := attempt_asks setup tag turn
  simp only [Action.outcome, execute_eq]
  cases came : attempt setup.recorded tag turn with
  | unobtained e t =>
    rw [came] at asks
    obtain ⟨same, work, asked, prepares⟩ := asks
    have works : ∀ q ∈ work, q.isWork = true :=
      fun q member => Asked.isWork_of_isPrepare q (prepares q member)
    exact ⟨work, .error e, t, rfl, works, by simp [asked, Attempt.ending], rfl, same, prepares⟩
  | failed e t =>
    rw [came] at asks
    obtain ⟨connected, -, work, asked, works⟩ := asks
    have ends := ends_abandon_recorded setup tag e connected
    cases abandoned : (abandon setup.recorded tag e : Action _ Int) t with
    | ok affected after => exact (ends.of_ok abandoned).elim
    | error e' after =>
      obtain ⟨same, ending, shown⟩ := ends.of_error abandoned
      refine ⟨work, .error e', after, by simp only [settle, abandoned], works, ?_, same, ?_⟩
      · simp [ending, asked, Attempt.ending]
      · cases rolled : setup.connection.rollback t.conn.state with
        | ok _ _ => simpa [rolled] using shown
        | error f _ => simpa [rolled] using shown
  | completed affected t =>
    rw [came] at asks
    obtain ⟨connected, autocommit, work, asked, works⟩ := asks
    rw [settle_completed, autocommit]
    by_cases commits : affected ≠ 0 ∧ turn.autocommit = true
    · have ends := ends_commit_recorded setup connected
      cases committed : onBook (Book.commit setup.recorded) t with
      | ok _ after =>
        obtain ⟨same, ending, state, commit⟩ := ends.of_ok committed
        refine ⟨work, .ok affected, after, by simp [commits], works, ?_, same, ?_⟩
        · simp [ending, asked, Attempt.ending, commits]
        · simp [commits, commit]
      | error e after =>
        obtain ⟨same, ending, f, state, commit, shown⟩ := ends.of_error committed
        refine ⟨work, .error e, after, by simp [commits], works, ?_, same, ?_⟩
        · simp [ending, asked, Attempt.ending, commits]
        · simp [commits, commit, shown]
    · refine ⟨work, .ok affected, t, by simp [commits], works, ?_, rfl, by simp [commits]⟩
      simp [asked, Attempt.ending, commits]

variable {deeds : List (Deed (Recorded σ))} {call : Call (Recorded σ)} {result : Except Error Int}

theorem attempt_eq {σ : Type} (setup : Setup σ) (tag : String) (turn : Turn σ) :
    attempt setup tag turn =
      let c := setup.compiler turn.library
      if turn.connected then
        match c.get tag turn.toDesk with
        | .error e desk => .unobtained e { turn with toDesk := desk }
        | .ok chain desk =>
          match Call.runEntries c.connection (Call.runInclude c setup.maxDepth (setup.maxDepth - 1))
              chain.entries (turn.opening tag desk) with
          | .ok () call => .completed call.session.affected (turn.after call)
          | .error e call => .failed e (turn.after call)
      else .unobtained .disconnected turn := by
  simp only [attempt, get_eq]
  by_cases up : turn.connected = true
  · simp only [if_pos up]
    cases (setup.compiler turn.library).get tag turn.toDesk with
    | error e desk => rfl
    | ok chain desk =>
      simp only
      rw [show runChain setup tag chain _ =
        match Call.runEntries (setup.compiler turn.library).connection
            (Call.runInclude (setup.compiler turn.library) setup.maxDepth (setup.maxDepth - 1))
            chain.entries (turn.opening tag desk) with
        | .ok () call => .ok call.session.affected (turn.after call)
        | .error e call => .error e (turn.after call) from rfl]
      cases Call.runEntries _ _ chain.entries (turn.opening tag desk) <;> rfl
  · simp only [if_neg up]

theorem Ran.attempt_eq {σ : Type} {setup : Setup σ} {tag : String} {turn : Turn σ}
    {deeds : List (Deed σ)} {result : Except Error Int} {call : Call σ}
    (ran : Ran setup tag turn deeds result call) :
    attempt setup tag turn =
      match result with
      | .ok n => .completed n (turn.after call)
      | .error e => .failed e (turn.after call) := by
  obtain ⟨up, got, runs⟩ := ran
  have comes := runs.comes
  simp only [Turn.attempt_eq, if_pos up, got]
  cases result with
  | ok n =>
    obtain ⟨ended, counted⟩ := comes
    have affected : call.session.affected = n := counted.trans (Int.zero_add n)
    simp only [ended, affected]
  | error e =>
    have failed : Call.runEntries _ _ _ _ = .error e call := comes
    simp only [failed]

theorem unobtained_or_ran {σ : Type} (setup : Setup σ) (tag : String) (turn : Turn σ) :
    (∃ e t, onBook (Book.get setup tag) turn = .error e t ∧
      attempt setup tag turn = .unobtained e t) ∨
    ∃ deeds result call, Ran setup tag turn deeds result call := by
  simp only [get_eq, Turn.attempt_eq]
  by_cases up : turn.connected = true
  · cases got : (setup.compiler turn.library).get tag turn.toDesk with
    | error e desk => exact .inl ⟨e, { turn with toDesk := desk }, by simp [up]⟩
    | ok chain desk =>
      obtain ⟨deeds, result, call, runs⟩ := Call.exists_runs (setup.compiler turn.library)
        setup.maxDepth (setup.maxDepth - 1) chain.entries (turn.opening tag desk)
      exact .inr ⟨_, result, call, up, got, runs⟩
  · exact .inl ⟨.disconnected, turn, by simp [up]⟩

def Reports (request : Request σ Unit) (result : Except Error Int) (call : Call (Recorded σ))
    (shown : Except Error Int) : Prop :=
  match request call.conn.state with
  | .ok _ _ => shown = result
  | .error f _ => shown = .error (.wrapFault none f)

def endingOf (autocommit : Bool) : Except Error Int → List Asked
  | .error _ => [.rollback]
  | .ok affected => if affected ≠ 0 ∧ autocommit then [.commit] else []

theorem endingOf_cases (autocommit : Bool) (result : Except Error Int) :
    endingOf autocommit result = [] ∨ endingOf autocommit result = [.commit] ∨
      endingOf autocommit result = [.rollback] := by
  cases result with
  | error e => exact .inr (.inr rfl)
  | ok n =>
    simp only [endingOf]
    split
    · exact .inr (.inl rfl)
    · exact .inl rfl

theorem endingOf_eq_rollback_iff {autocommit : Bool} {result : Except Error Int} :
    endingOf autocommit result = [.rollback] ↔ ∃ e, result = .error e := by
  cases result with
  | error e => simp [endingOf]
  | ok n =>
    simp only [endingOf]
    split <;> simp

theorem endingOf_eq_commit_iff {autocommit : Bool} {result : Except Error Int} :
    endingOf autocommit result = [.commit] ↔
      ∃ n, result = .ok n ∧ n ≠ 0 ∧ autocommit = true := by
  cases result with
  | error e => simp [endingOf]
  | ok n =>
    simp only [endingOf]
    split <;> simp_all

variable {work : List Asked} {deeds : List (Deed (Recorded σ))} {call : Call (Recorded σ)}
  {result shown : Except Error Int} {data : Fields}

theorem Ran.ending_eq (ran : Ran setup.recorded tag turn deeds result call) (autocommit : Bool) :
    (attempt setup.recorded tag turn).ending autocommit = endingOf autocommit result := by
  rw [ran.attempt_eq]
  cases result <;> rfl

theorem Ran.reports (ran : Ran setup.recorded tag turn deeds result call)
    (gives : Gives setup turn work shown data (attempt setup.recorded tag turn)) :
    data = call.data ∧
      match endingOf turn.autocommit result with
      | [.rollback] => Reports setup.connection.rollback result call shown
      | [.commit] => Reports setup.connection.commit result call shown
      | _ => shown = result := by
  rw [ran.attempt_eq] at gives
  cases result with
  | error e => exact gives
  | ok n =>
    obtain ⟨same, gives⟩ := gives
    refine ⟨same, ?_⟩
    split at gives
    next commits =>
      rw [show endingOf turn.autocommit (.ok n) = [.commit] from if_pos commits]
      exact gives
    next stays =>
      rw [show endingOf turn.autocommit (.ok n) = [] from if_neg stays]
      exact gives

/-- A call of a tag asks for one end of the transaction at most, and that is the last that it asks
for: to roll back when an entry has failed, and to commit when every entry has been completed, rows
were affected and autocommit is on. -/
theorem execute_settled (setup : Setup σ) (tag : String) (turn : Turn (Recorded σ)) :
    let Ran := Ran setup.recorded tag turn
    ∃ work ending shown after,
      (execute setup.recorded tag).outcome turn = (shown, after) ∧
      after.conn.asked = turn.conn.asked ++ work ++ ending ∧
      (∀ q ∈ work, q.isWork = true) ∧
      (ending = [] ∨ ending = [.commit] ∨ ending = [.rollback]) ∧
      (ending = [.rollback] ↔ ∃ deeds e call, Ran deeds (.error e) call) ∧
      (ending = [.commit] ↔
        ∃ deeds n call, Ran deeds (.ok n) call ∧ n ≠ 0 ∧ turn.autocommit = true) ∧
      (∀ e t, onBook (Book.get setup.recorded tag) turn = .error e t →
        ending = [] ∧ shown = .error e ∧ after.data = turn.data ∧
          ∀ q ∈ work, q.isPrepare = true) ∧
      (∀ chain t, onBook (Book.get setup.recorded tag) turn = .ok chain t →
        ∃ deeds result call, Ran deeds result call) ∧
      ∀ deeds result call, Ran deeds result call →
        after.data = call.data ∧
          match ending with
          | [.rollback] => Reports setup.connection.rollback result call shown
          | [.commit] => Reports setup.connection.commit result call shown
          | _ => shown = result := by
  intro Ran
  obtain ⟨work, shown, after, outcome, works, asked, gives⟩ := execute_attempted setup tag turn
  refine ⟨work, _, shown, after, outcome, asked, works, ?_⟩
  rcases unobtained_or_ran setup.recorded tag turn with
    ⟨e, t, failed, came⟩ | ⟨deeds, result, call, ran⟩
  · have unrun {deeds : List (Deed (Recorded σ))} {result : Except Error Int}
        {call : Call (Recorded σ)} : ¬ Ran deeds result call := fun ran => by
      have attempted := came.symm.trans ran.attempt_eq
      cases result <;> cases attempted
    have none : (attempt setup.recorded tag turn).ending turn.autocommit = [] := by rw [came]; rfl
    rw [came] at gives
    obtain ⟨same, kept, prepares⟩ := gives
    refine ⟨.inl none, ?_, ?_, ?_, ?_, fun _ _ _ ran => absurd ran unrun⟩
    · simp [none, unrun]
    · simp [none, unrun]
    · intro e' t' failed'
      cases failed.symm.trans failed'
      exact ⟨none, same, kept, prepares⟩
    · intro chain t' got
      cases failed.symm.trans got
  · have obtained : ∃ chain t, onBook (Book.get setup.recorded tag) turn = .ok chain t := by
      obtain ⟨up, got, -⟩ := ran
      exact ⟨_, _, by rw [get_eq, if_pos up, got]⟩
    have ending := ran.ending_eq turn.autocommit
    refine ⟨?_, ?_, ?_, ?_, fun _ _ _ => ⟨deeds, result, call, ran⟩, fun _ _ _ ran' => ?_⟩
    · rw [ending]
      exact endingOf_cases turn.autocommit result
    · constructor
      · intro rolls
        obtain ⟨e, rfl⟩ := endingOf_eq_rollback_iff.mp (ending.symm.trans rolls)
        exact ⟨deeds, e, call, ran⟩
      · rintro ⟨deeds', e, call', ran'⟩
        exact ran'.ending_eq turn.autocommit
    · constructor
      · intro commits
        obtain ⟨n, rfl, counts⟩ := endingOf_eq_commit_iff.mp (ending.symm.trans commits)
        exact ⟨deeds, n, call, ran, counts⟩
      · rintro ⟨deeds', n, call', ran', counts⟩
        exact (ran'.ending_eq turn.autocommit).trans (if_pos counts)
    · intro e t failed
      obtain ⟨chain, t', got⟩ := obtained
      cases failed.symm.trans got
    · rw [ran'.ending_eq]
      exact ran'.reports gives

end Turn

end QueryBook
