import QueryBook.Connection.Cursor
import QueryBook.Proofs.Recorded

set_option autoImplicit false

namespace QueryBook

open QueryBook.Action Connection

structure Execution where
  text : String
  values : List Value
  fault : Option Fault

def Execution.explanation (sql : String) (parameters : Nat) (fault : Option Fault) : Execution :=
  ⟨"EXPLAIN " ++ sql, List.replicate parameters .null, fault⟩

structure Logged (σ : Type) where
  state : σ
  log : List Execution

namespace CursorDriver

variable {σ α : Type}

def log (entries : Option Fault → List Execution) (request : Request σ α) :
    Request (Logged σ) α := fun s =>
  match request s.state with
  | .ok a t => .ok a ⟨t, s.log ++ entries none⟩
  | .error f t => .error f ⟨t, s.log ++ entries (some f)⟩

@[simp] theorem ends_log {entries : Option Fault → List Execution} {request : Request σ α}
    {s : Logged σ} {good : α → Logged σ → Prop} {bad : Fault → Logged σ → Prop} :
    Ends (log entries request) s good bad ↔
      Ends request s.state (fun a t => good a ⟨t, s.log ++ entries none⟩)
        (fun f t => bad f ⟨t, s.log ++ entries (some f)⟩) := by
  simp only [Ends, log]
  cases request s.state <;> rfl

theorem of_log_eq_ok {entries : Option Fault → List Execution} {request : Request σ α}
    {s t : Logged σ} {a : α} (logged : log entries request s = .ok a t) :
    request s.state = .ok a t.state := by
  unfold log at logged
  split at logged
  next found =>
    cases logged
    exact found
  next => cases logged

def logged (driver : CursorDriver σ) : CursorDriver (Logged σ) where
  cursor := log (fun _ => []) driver.cursor
  execute := fun c text values =>
    log (fun fault => [⟨text, values, fault⟩]) (driver.execute c text values)
  labels := fun c => log (fun _ => []) (driver.labels c)
  fetch := fun c => log (fun _ => []) (driver.fetch c)
  closeCursor := fun c => log (fun _ => []) (driver.closeCursor c)
  commit := log (fun _ => []) driver.commit
  rollback := log (fun _ => []) driver.rollback
  close := log (fun _ => []) driver.close
  rowsLeft := fun c s => driver.rowsLeft c s.state
  rowsLeft_fetch := fun fetched => driver.rowsLeft_fetch (of_log_eq_ok fetched)
  rowsLeft_labels := fun named => driver.rowsLeft_labels (of_log_eq_ok named)

structure RaisesOwn (driver : CursorDriver σ) : Prop where
  execute : ∀ c text values s f t, driver.execute c text values s = .error f t →
    ∃ name message, f = .foreign name message
  closeCursor : ∀ c s f t, driver.closeCursor c s = .error f t →
    ∃ name message, f = .foreign name message
  rollback : ∀ s f t, driver.rollback s = .error f t → ∃ name message, f = .foreign name message

end CursorDriver

structure Job where
  asked : Asked
  executions : List Execution
  fault : Option Fault

structure Observed (σ : Type) where
  state : Cursors σ
  jobs : List Job

namespace Cursors

variable {σ α : Type}

def withLog (s : Cursors σ) : Cursors (Logged σ) :=
  ⟨⟨s.driver, []⟩, s.prepared⟩

def withoutLog (s : Cursors (Logged σ)) : Cursors σ :=
  ⟨s.driver.state, s.prepared⟩

-- The request is made with an empty log, so the log is what it has done.
def observe (entry : Except Fault α → Asked) (request : Request (Cursors (Logged σ)) α) :
    Request (Observed σ) α := fun s =>
  match request s.state.withLog with
  | .ok a t => .ok a ⟨t.withoutLog, s.jobs ++ [⟨entry (.ok a), t.driver.log, none⟩]⟩
  | .error f t => .error f ⟨t.withoutLog, s.jobs ++ [⟨entry (.error f), t.driver.log, some f⟩]⟩

theorem ends_observe {entry : Except Fault α → Asked} {request : Request (Cursors (Logged σ)) α}
    {s : Observed σ} {good : α → Observed σ → Prop} {bad : Fault → Observed σ → Prop} :
    Ends (observe entry request) s good bad ↔
      Ends request s.state.withLog
        (fun a t => good a ⟨t.withoutLog, s.jobs ++ [⟨entry (.ok a), t.driver.log, none⟩]⟩)
        (fun f t => bad f
          ⟨t.withoutLog, s.jobs ++ [⟨entry (.error f), t.driver.log, some f⟩]⟩) := by
  simp only [Ends, observe]
  cases request s.state.withLog <;> rfl

def observed (driver : CursorDriver σ) (style : MarkerStyle) : Connection (Observed σ) where
  style
  prepare := fun sql n =>
    observe (fun _ => .prepare sql n) ((connection driver.logged style true).prepare sql n)
  execute := fun h values =>
    observe (.execute h values) ((connection driver.logged style true).execute h values)
  describe := fun h =>
    observe (fun _ => .describe h) ((connection driver.logged style true).describe h)
  fetch := fun h => observe (fun _ => .fetch h) ((connection driver.logged style true).fetch h)
  commit := observe (fun _ => .commit) (connection driver.logged style true).commit
  rollback := observe (fun _ => .rollback) (connection driver.logged style true).rollback
  close := observe (fun _ => .close) (connection driver.logged style true).close
  rowsLeft := fun h s => driver.rowsLeft h.id s.state.driver
  rowsLeft_fetch := by
    intro h s row t fetched
    unfold observe at fetched
    split at fetched
    next found =>
      cases fetched
      exact (connection driver.logged style true).rowsLeft_fetch found
    next => cases fetched

@[simp] theorem ends_askDriver {request : Request σ α} {s : Cursors σ}
    {good : α → Cursors σ → Prop} {bad : Fault → Cursors σ → Prop} :
    Ends (ask request) s good bad ↔
      Ends request s.driver (fun a driver => good a { s with driver })
        (fun f driver => bad f { s with driver }) := by
  simp only [Ends, ask]
  cases request s.driver <;> rfl

theorem ends_withCursor {driver : CursorDriver σ} {use : Nat → Request σ α} {s : σ}
    {good : α → σ → Prop} {bad : Fault → σ → Prop} :
    Ends (withCursor driver use) s good bad ↔
      Ends driver.cursor s
        (fun c t => Ends (use c) t
          (fun a u => Ends (driver.closeCursor c) u (fun _ v => good a v) bad)
          (fun f u => Ends (driver.closeCursor c) u (fun _ v => bad f v) bad)) bad := by
  simp only [Ends, withCursor, bind, EStateM.bind, SeqRight.seqRight, EStateM.seqRight]
  cases driver.cursor s with
  | error f t => rfl
  | ok c t =>
    cases used : use c t with
    | ok a u =>
      simp only [used]
      cases driver.closeCursor c u <;> rfl
    | error f u =>
      simp only [used]
      cases driver.closeCursor c u <;> rfl

end Cursors

def Reflects {τ σ α : Type} (part : τ → σ) (request : Request τ α) (other : Request σ α) : Prop :=
  ∀ s, Ends request s (fun a t => other (part s) = .ok a (part t))
    (fun f t => other (part s) = .error f (part t))

structure Connection.Mirrors {τ σ : Type} (part : τ → σ) (conn : Connection τ)
    (other : Connection σ) : Prop where
  style : conn.style = other.style
  prepare : ∀ sql n, Reflects part (conn.prepare sql n) (other.prepare sql n)
  execute : ∀ h values, Reflects part (conn.execute h values) (other.execute h values)
  describe : ∀ h, Reflects part (conn.describe h) (other.describe h)
  fetch : ∀ h, Reflects part (conn.fetch h) (other.fetch h)
  commit : Reflects part conn.commit other.commit
  rollback : Reflects part conn.rollback other.rollback
  close : Reflects part conn.close other.close

namespace Cursors

variable {σ τ α β : Type} {driver : CursorDriver σ}

theorem reflects_bind {part : τ → σ} {act : Request τ β} {act' : Request σ β}
    {next : β → Request τ α} {next' : β → Request σ α} (first : Reflects part act act')
    (rest : ∀ b, Reflects part (next b) (next' b)) :
    Reflects part (act >>= next) (act' >>= next') := by
  intro s
  rw [ends_bind]
  apply (first s).imp
  · intro b t acted
    simp only [bind, EStateM.bind, acted]
    exact rest b t
  · intro f t failed
    simp only [bind, EStateM.bind, failed]

theorem reflects_log (entries : Option Fault → List Execution) (request : Request σ α) :
    Reflects Logged.state (CursorDriver.log entries request) request := by
  intro s
  simp only [CursorDriver.ends_log]
  exact ends_self request s.state

theorem reflects_withCursor {use : Nat → Request (Logged σ) α} {use' : Nat → Request σ α}
    (reflects : ∀ c, Reflects Logged.state (use c) (use' c)) :
    Reflects Logged.state (withCursor driver.logged use) (withCursor driver use') := by
  intro s
  have opens : Reflects Logged.state driver.logged.cursor driver.cursor :=
    reflects_log (fun _ => []) _
  have closes (c : Nat) : Reflects Logged.state (driver.logged.closeCursor c)
      (driver.closeCursor c) :=
    reflects_log (fun _ => []) _
  rw [ends_withCursor]
  apply (opens s).imp
  · intro c t opened
    apply (reflects c t).imp
    · intro a u used
      apply (closes c u).imp
      · intro _ v closed
        simp only [withCursor, bind, EStateM.bind, SeqRight.seqRight, EStateM.seqRight, opened,
          used, closed]
        rfl
      · intro f v failed
        simp only [withCursor, bind, EStateM.bind, SeqRight.seqRight, EStateM.seqRight, opened,
          used, failed]
    · intro f u failed
      apply (closes c u).imp
      · intro _ v closed
        simp only [withCursor, bind, EStateM.bind, SeqRight.seqRight, EStateM.seqRight, opened,
          failed, closed]
        rfl
      · intro f' v failed'
        simp only [withCursor, bind, EStateM.bind, SeqRight.seqRight, EStateM.seqRight, opened,
          failed, failed']
  · intro f t unopened
    simp only [withCursor, bind, EStateM.bind, unopened]

theorem reflects_ask {request : Request (Logged σ) α} {request' : Request σ α}
    (reflects : Reflects Logged.state request request') :
    Reflects withoutLog (ask request) (ask request') := by
  intro s
  rw [ends_askDriver]
  apply (reflects s.driver).imp
  · intro a t acted
    simp only [ask, withoutLog, acted]
  · intro f t failed
    simp only [ask, withoutLog, failed]

theorem reflects_observe {request : Request (Cursors (Logged σ)) α}
    {request' : Request (Cursors σ) α} (entry : Except Fault α → Asked)
    (reflects : Reflects withoutLog request request') :
    Reflects Observed.state (observe entry request) request' := by
  intro s
  rw [ends_observe]
  exact reflects s.state.withLog

theorem reflects_fetch (c : Nat) :
    Reflects Logged.state (fetch driver.logged c) (fetch driver c) := by
  intro s
  unfold Ends fetch
  simp only [CursorDriver.logged, CursorDriver.log]
  cases driver.fetch c s.state with
  | error f t => rfl
  | ok row t =>
    cases row with
    | none => rfl
    | some cells =>
      simp only
      cases driver.labels c t <;> rfl

theorem reflects_close : Reflects withoutLog (close driver.logged) (close driver) := by
  intro s
  obtain ⟨state, logged, plain⟩ : ∃ state : Logged σ,
      close driver.logged s = ask driver.logged.close ⟨state, []⟩ ∧
        close driver (withoutLog s) = ask driver.close ⟨state.state, []⟩ := by
    refine ⟨_, rfl, congrArg (fun state => ask driver.close ⟨state, []⟩) ?_⟩
    apply List.foldl_hom Logged.state
    intro state c
    simp only [CursorDriver.logged, CursorDriver.log]
    cases driver.closeCursor c state.state <;> rfl
  have closes : Reflects withoutLog (ask driver.logged.close) (ask driver.close) :=
    reflects_ask (reflects_log (fun _ => []) _)
  unfold Ends
  rw [logged, plain]
  exact closes ⟨state, []⟩

theorem mirrors_observed (driver : CursorDriver σ) (style : MarkerStyle) :
    (observed driver style).Mirrors Observed.state (connection driver style true) where
  style := rfl
  prepare sql n := by
    refine reflects_observe (fun _ => .prepare sql n)
      (reflects_bind (reflects_ask (reflects_withCursor fun c => ?_)) fun _ => ?_)
    · exact reflects_bind (reflects_log (fun fault => [.explanation sql n fault]) _) fun _ _ => rfl
    · exact reflects_bind (reflects_ask (reflects_log (fun _ => []) _)) fun _ _ => rfl
  execute h values :=
    reflects_observe (.execute h values)
      (reflects_bind (reflects_ask (reflects_log (fun fault => [⟨h.sql, values, fault⟩]) _))
        fun _ _ => rfl)
  describe h :=
    reflects_observe (fun _ => .describe h) (reflects_ask (reflects_log (fun _ => []) _))
  fetch h := reflects_observe (fun _ => .fetch h) (reflects_ask (reflects_fetch h.id))
  commit := reflects_observe (fun _ => .commit) (reflects_ask (reflects_log (fun _ => []) _))
  rollback := reflects_observe (fun _ => .rollback) (reflects_ask (reflects_log (fun _ => []) _))
  close := reflects_observe (fun _ => .close) reflects_close

end Cursors

namespace Observed

variable {σ α : Type}

def Asks (q : Asked) (request : Request (Observed σ) α) : Prop :=
  ∀ s, Ends request s (fun _ t => t.jobs = s.jobs ++ [⟨q, [], none⟩])
    (fun f t => t.jobs = s.jobs ++ [⟨q, [], some f⟩])

end Observed

inductive Tried (sql : String) (parameters : Nat) : Fault → List Execution → Prop where
  | unexplained (f : Fault) : Tried sql parameters f []
  | explained (f : Fault) : Tried sql parameters f [.explanation sql parameters none]
  | refused (name text : String) (fault : Fault) :
    Tried sql parameters (.foreign name text) [.explanation sql parameters (some fault)]

-- Every request adds one job to the list; a text is prepared when it has been explained.
structure Connection.Validates {σ : Type} (conn : Connection (Observed σ)) : Prop where
  prepare : ∀ sql n s, Ends (conn.prepare sql n) s
    (fun h t => h.sql = sql ∧
      t.jobs = s.jobs ++ [⟨.prepare sql n, [.explanation sql n none], none⟩])
    (fun f t => ∃ tried, Tried sql n f tried ∧
      t.jobs = s.jobs ++ [⟨.prepare sql n, tried, some f⟩])
  execute : ∀ h values s, Ends (conn.execute h values) s
    (fun affected t =>
      t.jobs = s.jobs ++ [⟨.execute h values (.ok affected), [⟨h.sql, values, none⟩], none⟩])
    (fun f t =>
      t.jobs = s.jobs ++ [⟨.execute h values (.error f), [⟨h.sql, values, some f⟩], some f⟩])
  describe : ∀ h, Observed.Asks (.describe h) (conn.describe h)
  fetch : ∀ h, Observed.Asks (.fetch h) (conn.fetch h)
  commit : Observed.Asks .commit conn.commit
  rollback : Observed.Asks .rollback conn.rollback
  close : Observed.Asks .close conn.close
  foreign_of_rollback : ∀ {s f t}, conn.rollback s = .error f t →
    ∃ name text, f = .foreign name text

namespace Cursors

variable {σ α : Type} {driver : CursorDriver σ}

theorem asks_observe {request : Request (Cursors (Logged σ)) α} (q : Asked)
    (silent : ∀ s, EndsIn request s (fun t => t.driver.log = s.driver.log)) :
    Observed.Asks q (observe (fun _ => q) request) := by
  intro s
  rw [ends_observe]
  apply (silent s.state.withLog).imp
  · intro _ t same
    simp [same, withLog]
  · intro f t same
    simp [same, withLog]

theorem silent_ask {request : Request (Logged σ) α}
    (silent : ∀ s, EndsIn request s (fun t => t.log = s.log)) (s : Cursors (Logged σ)) :
    EndsIn (ask request) s (fun t => t.driver.log = s.driver.log) := by
  simp only [EndsIn, ends_askDriver]
  exact silent s.driver

theorem silent_log (request : Request σ α) (s : Logged σ) :
    EndsIn (CursorDriver.log (fun _ => []) request) s (fun t => t.log = s.log) := by
  simp only [EndsIn, CursorDriver.ends_log, List.append_nil]
  exact (ends_self _ _).imp (fun _ _ _ => trivial) fun _ _ _ => trivial

theorem silent_fetch (c : Nat) (s : Logged σ) :
    EndsIn (fetch driver.logged c) s (fun t => t.log = s.log) := by
  unfold EndsIn Ends fetch
  simp only [CursorDriver.logged, CursorDriver.log]
  cases driver.fetch c s.state with
  | error f t => simp
  | ok row t =>
    cases row with
    | none => simp
    | some cells =>
      simp only [List.append_nil]
      cases driver.labels c t <;> simp

theorem silent_close (s : Cursors (Logged σ)) :
    EndsIn (close driver.logged) s (fun t => t.driver.log = s.driver.log) := by
  have asked (state : Logged σ) :
      EndsIn (ask driver.logged.close) (⟨state, []⟩ : Cursors (Logged σ))
        (fun t => t.driver.log = state.log) :=
    silent_ask (silent_log driver.close) _
  refine (asked _).mono fun t same => same.trans ?_
  refine @List.foldlRecOn _ _ (fun state : Logged σ => state.log = s.driver.log) s.prepared _ _
    rfl ?_
  intro state same c _
  rw [← same]
  simp only [CursorDriver.logged, CursorDriver.log]
  cases driver.closeCursor c state.state <;> simp

theorem ends_explain_logged (own : driver.RaisesOwn) (sql : String) (n : Nat) (s : Logged σ) :
    Ends (explain driver.logged sql n) s
      (fun _ t => t.log = s.log ++ [.explanation sql n none])
      (fun f t => ∃ tried, Tried sql n f tried ∧ t.log = s.log ++ tried) := by
  simp only [explain, ends_withCursor, ends_bind, ends_pure, CursorDriver.logged,
    CursorDriver.ends_log, List.append_nil]
  apply (ends_self _ _).imp
  · intro c t _
    apply (ends_self _ _).imp
    · intro _ u _
      apply (ends_self _ _).imp
      · exact fun _ _ _ => rfl
      · exact fun f _ _ => ⟨_, .explained f, rfl⟩
    · intro fault u refused
      obtain ⟨name, text, rfl⟩ := own.execute _ _ _ _ _ _ refused
      apply (ends_self _ _).imp
      · exact fun _ _ _ => ⟨_, .refused name text _, rfl⟩
      · intro f _ failed
        obtain ⟨name', text', rfl⟩ := own.closeCursor _ _ _ _ failed
        exact ⟨_, .refused name' text' _, rfl⟩
  · exact fun f _ _ => ⟨[], .unexplained f, (List.append_nil _).symm⟩

theorem validates_observed (own : driver.RaisesOwn) (style : MarkerStyle) :
    (observed driver style).Validates where
  prepare sql n s := by
    simp only [observed, ends_observe, connection, prepare, if_true, ends_bind, ends_askDriver]
    apply (ends_explain_logged own sql n _).imp
    · intro _ t explained
      simp only [ends_modify, ends_pure, CursorDriver.logged, CursorDriver.ends_log]
      apply (ends_self _ _).imp
      · intro c u _
        simp [withLog, explained]
      · intro f u _
        exact ⟨_, .explained f, by simp [explained, withLog]⟩
    · intro f t failed
      obtain ⟨tried, tries, same⟩ := failed
      exact ⟨tried, tries, by simp [same, withLog]⟩
  execute h values s := by
    simp only [observed, ends_observe, connection, ends_bind, ends_askDriver, CursorDriver.logged,
      CursorDriver.ends_log, ends_pure]
    exact (ends_self _ _).imp (fun _ _ _ => rfl) fun _ _ _ => rfl
  describe h := asks_observe (.describe h) (silent_ask (silent_log (driver.labels h.id)))
  fetch h := asks_observe (.fetch h) (silent_ask (silent_fetch h.id))
  commit := asks_observe .commit (silent_ask (silent_log driver.commit))
  rollback := asks_observe .rollback (silent_ask (silent_log driver.rollback))
  close := asks_observe .close silent_close
  foreign_of_rollback := by
    intro s f t failed
    have failed := ((mirrors_observed driver style).rollback s).of_error failed
    simp only [connection, ask] at failed
    split at failed
    next => cases failed
    next fault u refused =>
      obtain ⟨rfl, -⟩ := EStateM.Result.error.inj failed
      exact own.rollback _ _ _ refused

end Cursors

end QueryBook
