import QueryBook.Proofs.Books

set_option autoImplicit false

namespace QueryBook

inductive Deed (σ : Type) where
  | obtained (tag : String) (desk t : Desk σ)
  | ran (s : Statement) (stage t : Stage σ)

namespace Call

variable {σ : Type}

def counting (call : Call σ) (stage : Stage σ) (affected : Nat) : Call σ :=
  { call.setStage stage with
    session := { call.session with affected := call.session.affected + affected } }

def entering (call : Call σ) (desk : Desk σ) (tag : String) : Call σ :=
  let parent := call.session.stack.getLastD ""
  { call with
    toDesk := { desk with
      journal := desk.journal ++
        [.ofTag "librarian" ("EXECUTE " ++ tag ++ " (included from " ++ parent ++ ")") tag] }
    session := call.session.push tag }

def leaving (call : Call σ) : Call σ :=
  { call with session := call.session.pop }

-- Runs of entries, with `room` for so many more tags on the stack: `.ok` with the rows affected
-- when every entry has been completed, the included ones as well, and else the error of the entry
-- that failed.
inductive Runs (c : Compiler σ) (limit : Nat) :
    Nat → List ChainEntry → Call σ → List (Deed σ) → Except Error Int → Call σ → Prop where
  | done (room : Nat) (call : Call σ) : Runs c limit room [] call [] (.ok 0) call
  | statement {room n : Nat} {s : Statement} {rest : List ChainEntry} {call t : Call σ}
      {stage : Stage σ} {deeds : List (Deed σ)} {result : Except Error Int}
      (ran : s.execute c.connection call.stage = .ok n stage)
      (later : Runs c limit room rest (call.counting stage n) deeds result t) :
    Runs c limit room (.statement s :: rest) call (.ran s call.stage stage :: deeds)
      (((n : Int) + ·) <$> result) t
  | broken {room : Nat} {s : Statement} {rest : List ChainEntry} {call : Call σ} {stage : Stage σ}
      {e : Error} (failed : s.execute c.connection call.stage = .error e stage) :
    Runs c limit room (.statement s :: rest) call [.ran s call.stage stage] (.error e)
      (call.setStage stage)
  | cyclic {room : Nat} {tag : String} {rest : List ChainEntry} {call : Call σ}
      (running : tag ∈ call.session.stack) :
    Runs c limit room (.inclusion tag :: rest) call []
      (.error (.includeCycle (call.session.stack ++ [tag]))) call
  | deep {tag : String} {rest : List ChainEntry} {call : Call σ}
      (fresh : tag ∉ call.session.stack) :
    Runs c limit 0 (.inclusion tag :: rest) call []
      (.error (.includeDepth limit (call.session.stack ++ [tag]))) call
  | unobtained {room : Nat} {tag : String} {rest : List ChainEntry} {call : Call σ} {desk : Desk σ}
      {e : Error} (fresh : tag ∉ call.session.stack)
      (failed : c.get tag call.toDesk = .error e desk) :
    Runs c limit (room + 1) (.inclusion tag :: rest) call [.obtained tag call.toDesk desk]
      (.error e) { call with toDesk := desk }
  | included {room : Nat} {tag : String} {rest : List ChainEntry} {call t u : Call σ}
      {desk : Desk σ} {chain : Chain} {n : Int} {inner deeds : List (Deed σ)}
      {result : Except Error Int} (fresh : tag ∉ call.session.stack)
      (got : c.get tag call.toDesk = .ok chain desk)
      (whole : Runs c limit room chain.entries (call.entering desk tag) inner (.ok n) t)
      (later : Runs c limit (room + 1) rest t.leaving deeds result u) :
    Runs c limit (room + 1) (.inclusion tag :: rest) call
      (.obtained tag call.toDesk desk :: inner ++ deeds) ((n + ·) <$> result) u
  | interrupted {room : Nat} {tag : String} {rest : List ChainEntry} {call t : Call σ}
      {desk : Desk σ} {chain : Chain} {e : Error} {inner : List (Deed σ)}
      (fresh : tag ∉ call.session.stack) (got : c.get tag call.toDesk = .ok chain desk)
      (failed : Runs c limit room chain.entries (call.entering desk tag) inner (.error e) t) :
    Runs c limit (room + 1) (.inclusion tag :: rest) call
      (.obtained tag call.toDesk desk :: inner) (.error e) t.leaving

theorem runStatement_eq (conn : Connection σ) (s : Statement) (call : Call σ) :
    runStatement conn s call =
      match s.execute conn call.stage with
      | .ok n stage => .ok () (call.counting stage n)
      | .error e stage => .error e (call.setStage stage) := by
  unfold runStatement onStage Action.focus
  simp only [bind, EStateM.bind]
  cases s.execute conn call.stage <;> rfl

theorem runEntries_inclusion (conn : Connection σ) (runTag : String → Action (Call σ) Unit)
    (tag : String) (rest : List ChainEntry) (call : Call σ) :
    runEntries conn runTag (.inclusion tag :: rest) call =
      match runTag tag call with
      | .ok () t => runEntries conn runTag rest t
      | .error e t => .error e t := by
  simp only [runEntries, bind, EStateM.bind]
  cases runTag tag call <;> rfl

theorem within_eq (tag : String) (act : Action (Call σ) Unit) (call : Call σ) :
    within tag act call =
      match act { call with session := call.session.push tag } with
      | .ok () t => .ok () t.leaving
      | .error e t => .error e t.leaving := by
  change Action.andThen act _ _ = _
  unfold Action.andThen
  cases act { call with session := call.session.push tag } <;> rfl

theorem runInclude_cyclic (c : Compiler σ) (limit room : Nat) {tag : String} {call : Call σ}
    (running : tag ∈ call.session.stack) :
    runInclude c limit room tag call =
      .error (.includeCycle (call.session.stack ++ [tag])) call := by
  cases room <;> simp only [runInclude, Action.get_bind_apply, if_pos running] <;> rfl

theorem runInclude_deep (c : Compiler σ) (limit : Nat) {tag : String} {call : Call σ}
    (fresh : tag ∉ call.session.stack) :
    runInclude c limit 0 tag call =
      .error (.includeDepth limit (call.session.stack ++ [tag])) call := by
  simp only [runInclude, Action.get_bind_apply, if_neg fresh]
  rfl

theorem runInclude_eq (c : Compiler σ) (limit room : Nat) {tag : String} {call : Call σ}
    (fresh : tag ∉ call.session.stack) :
    runInclude c limit (room + 1) tag call =
      match c.get tag call.toDesk with
      | .error e desk => .error e { call with toDesk := desk }
      | .ok chain desk =>
        match runEntries c.connection (runInclude c limit room) chain.entries
            (call.entering desk tag) with
        | .ok () t => .ok () t.leaving
        | .error e t => .error e t.leaving := by
  simp only [runInclude, Action.get_bind_apply, if_neg fresh]
  simp only [onDesk, Action.focus, bind, EStateM.bind]
  cases c.get tag call.toDesk with
  | error e desk => rfl
  | ok chain desk =>
    simp only
    rw [show noteInclude tag { call with toDesk := desk } =
      .ok () { call.entering desk tag with session := call.session } from rfl]
    exact within_eq tag _ _

def Comes (call : Call σ) (run : EStateM.Result Error (Call σ) Unit) :
    Except Error Int → Call σ → Prop
  | .ok n, t => run = .ok () t ∧ t.session.affected = call.session.affected + n
  | .error e, t => run = .error e t

theorem Comes.later {call next t : Call σ} {run : EStateM.Result Error (Call σ) Unit} {n : Int}
    {result : Except Error Int} (counted : next.session.affected = call.session.affected + n)
    (comes : Comes next run result t) : Comes call run ((n + ·) <$> result) t := by
  cases result with
  | error e => exact comes
  | ok m => exact ⟨comes.1, by rw [comes.2, counted, Int.add_assoc]⟩

variable {c : Compiler σ} {limit room : Nat} {entries : List ChainEntry} {call t u : Call σ}
  {deeds : List (Deed σ)} {result : Except Error Int}

theorem Runs.comes (runs : Runs c limit room entries call deeds result t) :
    Comes call (runEntries c.connection (runInclude c limit room) entries call) result t := by
  induction runs with
  | done room call => exact ⟨rfl, (Int.add_zero _).symm⟩
  | @statement room n s rest call t stage deeds result ran later ih =>
    have next : runEntries c.connection (runInclude c limit room) (.statement s :: rest) call =
        runEntries c.connection (runInclude c limit room) rest (call.counting stage n) := by
      simp only [runEntries, bind, EStateM.bind, runStatement_eq, ran]
    rw [next]
    exact .later rfl ih
  | broken failed =>
    simp only [Comes, runEntries, bind, EStateM.bind, runStatement_eq, failed]
  | cyclic running =>
    simp only [Comes, runEntries_inclusion, runInclude_cyclic _ _ _ running]
  | deep fresh =>
    simp only [Comes, runEntries_inclusion, runInclude_deep _ _ fresh]
  | unobtained fresh failed =>
    simp only [Comes, runEntries_inclusion, runInclude_eq _ _ _ fresh, failed]
  | @included room tag rest call t u desk chain n inner deeds result fresh got whole later inside
      ih =>
    obtain ⟨inside, counted⟩ := inside
    have next : runEntries c.connection (runInclude c limit (room + 1)) (.inclusion tag :: rest)
        call = runEntries c.connection (runInclude c limit (room + 1)) rest t.leaving := by
      rw [runEntries_inclusion, runInclude_eq _ _ _ fresh, got]
      simp only [inside]
    rw [next]
    exact .later counted ih
  | @interrupted room tag rest call t desk chain e inner fresh got failed inside =>
    have inside : runEntries c.connection (runInclude c limit room) chain.entries
      (call.entering desk tag) = .error e t := inside
    simp only [Comes, runEntries_inclusion, runInclude_eq _ _ _ fresh, got, inside]

-- Each way that an entry may go has its rule. By induction on the room, and for each on the entries.
theorem exists_runs (c : Compiler σ) (limit room : Nat) (entries : List ChainEntry)
    (call : Call σ) : ∃ deeds result t, Runs c limit room entries call deeds result t := by
  induction room generalizing entries call with
  | zero =>
    induction entries generalizing call with
    | nil => exact ⟨_, _, _, .done 0 call⟩
    | cons entry rest ih =>
      cases entry with
      | statement s =>
        cases ran : s.execute c.connection call.stage with
        | error e stage => exact ⟨_, _, _, .broken ran⟩
        | ok n stage =>
          obtain ⟨deeds, result, t, later⟩ := ih (call.counting stage n)
          exact ⟨_, _, _, .statement ran later⟩
      | inclusion tag =>
        by_cases running : tag ∈ call.session.stack
        · exact ⟨_, _, _, .cyclic running⟩
        · exact ⟨_, _, _, .deep running⟩
  | succ room inside =>
    induction entries generalizing call with
    | nil => exact ⟨_, _, _, .done (room + 1) call⟩
    | cons entry rest ih =>
      cases entry with
      | statement s =>
        cases ran : s.execute c.connection call.stage with
        | error e stage => exact ⟨_, _, _, .broken ran⟩
        | ok n stage =>
          obtain ⟨deeds, result, t, later⟩ := ih (call.counting stage n)
          exact ⟨_, _, _, .statement ran later⟩
      | inclusion tag =>
        by_cases running : tag ∈ call.session.stack
        · exact ⟨_, _, _, .cyclic running⟩
        cases got : c.get tag call.toDesk with
        | error e desk => exact ⟨_, _, _, .unobtained running got⟩
        | ok chain desk =>
          obtain ⟨inner, result, t, runs⟩ := inside chain.entries (call.entering desk tag)
          cases result with
          | error e => exact ⟨_, _, _, .interrupted running got runs⟩
          | ok n =>
            obtain ⟨deeds, result, u, later⟩ := ih t.leaving
            exact ⟨_, _, _, .included running got runs later⟩

theorem runs_iff : (∃ deeds, Runs c limit room entries call deeds result t) ↔
    Comes call (runEntries c.connection (runInclude c limit room) entries call) result t := by
  refine ⟨fun runs => runs.choose_spec.comes, fun comes => ?_⟩
  obtain ⟨deeds, result', t', runs⟩ := exists_runs c limit room entries call
  have comes' := runs.comes
  suffices result = result' ∧ t = t' by
    obtain ⟨rfl, rfl⟩ := this
    exact ⟨deeds, runs⟩
  cases result <;> cases result' <;> simp_all [Comes]

end Call

namespace Turn

variable {σ : Type}

def opening (turn : Turn σ) (tag : String) (desk : Desk σ) : Call σ where
  toDesk := { desk with journal := desk.journal ++ [.ofTag "librarian" ("EXECUTE " ++ tag) tag] }
  data := turn.data
  session := .start tag

def after (turn : Turn σ) (call : Call σ) : Turn σ :=
  { turn with toDesk := call.toDesk, data := call.data }

inductive Ran (setup : Setup σ) (tag : String) (turn : Turn σ) :
    List (Deed σ) → Except Error Int → Call σ → Prop where
  | intro {chain : Chain} {desk : Desk σ} {deeds : List (Deed σ)} {result : Except Error Int}
      {call : Call σ} (up : turn.connected = true)
      (got : (setup.compiler turn.library).get tag turn.toDesk = .ok chain desk)
      (runs : Call.Runs (setup.compiler turn.library) setup.maxDepth (setup.maxDepth - 1)
        chain.entries (turn.opening tag desk) deeds result call) :
    Ran setup tag turn (.obtained tag turn.toDesk desk :: deeds) result call

theorem get_eq (setup : Setup σ) (tag : String) (turn : Turn σ) :
    onBook (Book.get setup tag) turn =
      if turn.connected then
        match (setup.compiler turn.library).get tag turn.toDesk with
        | .ok chain desk => .ok chain { turn with toDesk := desk }
        | .error e desk => .error e { turn with toDesk := desk }
      else .error .disconnected turn := by
  obtain ⟨⟨desk, library, connected, autocommit⟩, data⟩ := turn
  cases connected with
  | false => rfl
  | true =>
    have asked : Book.get setup tag ⟨desk, library, true, autocommit⟩ =
      Book.onDesk ((setup.compiler library).get tag) ⟨desk, library, true, autocommit⟩ := rfl
    simp only [onBook, Action.focus, asked, Book.onDesk, if_true]
    cases (setup.compiler library).get tag desk <;> rfl

end Turn

end QueryBook
