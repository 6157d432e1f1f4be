import QueryBook.Proofs.Observed

set_option autoImplicit false

namespace QueryBook

open QueryBook.Action Connection

inductive DriverCall where
  | cursor
  | execute (c : Nat) (text : String) (values : List Value)
  | labels (c : Nat)
  | fetch (c : Nat)
  | closeCursor (c : Nat)
  | commit
  | rollback
  | close

namespace DriverCall

def isWork : DriverCall → Bool
  | .commit | .rollback | .close => false
  | _ => true

def isExecute : DriverCall → Bool
  | .execute _ _ _ => true
  | _ => false

def closesCursor : DriverCall → Bool
  | .closeCursor _ => true
  | _ => false

end DriverCall

structure Watched (σ : Type) where
  state : σ
  calls : List DriverCall

namespace CursorDriver

variable {σ α : Type}

def watch (calls : List DriverCall) (request : Request σ α) : Request (Watched σ) α := fun s =>
  match request s.state with
  | .ok a t => .ok a ⟨t, s.calls ++ calls⟩
  | .error f t => .error f ⟨t, s.calls ++ calls⟩

@[simp] theorem ends_watch {calls : List DriverCall} {request : Request σ α} {s : Watched σ}
    {good : α → Watched σ → Prop} {bad : Fault → Watched σ → Prop} :
    Ends (watch calls request) s good bad ↔
      Ends request s.state (fun a t => good a ⟨t, s.calls ++ calls⟩)
        (fun f t => bad f ⟨t, s.calls ++ calls⟩) := by
  simp only [Ends, watch]
  cases request s.state <;> rfl

theorem reflects_watch (calls : List DriverCall) (request : Request σ α) :
    Reflects Watched.state (watch calls request) request := by
  intro s
  rw [ends_watch]
  exact ends_self request s.state

def watched (driver : CursorDriver σ) : CursorDriver (Watched σ) where
  cursor := watch [.cursor] driver.cursor
  execute := fun c text values => watch [.execute c text values] (driver.execute c text values)
  labels := fun c => watch [.labels c] (driver.labels c)
  fetch := fun c => watch [.fetch c] (driver.fetch c)
  closeCursor := fun c => watch [.closeCursor c] (driver.closeCursor c)
  commit := watch [.commit] driver.commit
  rollback := watch [.rollback] driver.rollback
  close := watch [.close] driver.close
  rowsLeft := fun c s => driver.rowsLeft c s.state
  rowsLeft_fetch := fun fetched =>
    driver.rowsLeft_fetch ((reflects_watch _ (driver.fetch _) _).of_ok fetched)
  rowsLeft_labels := fun named =>
    driver.rowsLeft_labels ((reflects_watch _ (driver.labels _) _).of_ok named)

end CursorDriver

def OnCursors {τ α : Type} (calls : τ → List DriverCall) (request : Request τ α) : Prop :=
  ∀ s, EndsIn request s fun t => Grows DriverCall.isWork (calls s) (calls t)

section OnCursors

variable {σ τ α β : Type} {calls : τ → List DriverCall}

theorem passage_onCursors : Passage
    (fun s t : τ => Grows DriverCall.isWork (calls s) (calls t))
    fun s (_ : Fault) t => Grows DriverCall.isWork (calls s) (calls t) where
  refl s := .refl _ (calls s)
  trans := .trans
  after := .trans

theorem onCursors_pure (a : α) : OnCursors calls (pure a) :=
  fun s => Grows.refl _ (calls s)

theorem onCursors_bind {request : Request τ β} {next : β → Request τ α}
    (first : OnCursors calls request) (rest : ∀ b, OnCursors calls (next b)) :
    OnCursors calls (request >>= next) :=
  fun s => passage_onCursors.bind (first s) rest

theorem onCursors_watch {q : DriverCall} (work : q.isWork = true) (request : Request σ α) :
    OnCursors Watched.calls (CursorDriver.watch [q] request) := by
  intro s
  simp only [EndsIn, CursorDriver.ends_watch]
  exact (ends_self _ _).imp (fun _ _ _ => .concat work _) fun _ _ _ => .concat work _

end OnCursors

namespace Cursors

variable {σ α : Type} {driver : CursorDriver σ}

def calls (s : Cursors (Watched σ)) : List DriverCall :=
  s.driver.calls

def Worked (s t : Cursors (Watched σ)) : Prop :=
  Grows DriverCall.isWork s.calls t.calls

theorem onCursors_ask {request : Request (Watched σ) α} (about : OnCursors Watched.calls request) :
    OnCursors calls (ask request) := by
  intro s
  simp only [EndsIn, ends_askDriver]
  exact about s.driver

theorem onCursors_withCursor {use : Nat → Request (Watched σ) α}
    (about : ∀ c, OnCursors Watched.calls (use c)) :
    OnCursors Watched.calls (withCursor driver.watched use) := by
  have opens : OnCursors Watched.calls driver.watched.cursor := onCursors_watch rfl _
  have closes (c : Nat) : OnCursors Watched.calls (driver.watched.closeCursor c) :=
    onCursors_watch rfl _
  intro s
  simp only [EndsIn, ends_withCursor]
  apply (opens s).imp
  · intro c t opened
    have closed {u : Watched σ} (used : Grows DriverCall.isWork t.calls u.calls) :
        EndsIn (driver.watched.closeCursor c) u fun v => Grows DriverCall.isWork s.calls v.calls :=
      (closes c u).mono fun _ => (opened.trans used).trans
    exact (about c t).imp (fun _ _ => closed) fun _ _ => closed
  · exact fun _ _ unopened => unopened

theorem onCursors_explain (sql : String) (n : Nat) :
    OnCursors calls (ask (explain driver.watched sql n)) := by
  refine onCursors_ask (onCursors_withCursor fun c => ?_)
  exact onCursors_bind (onCursors_watch rfl _) fun _ => onCursors_pure ()

theorem fetch_eq (driver : CursorDriver σ) (c : Nat) :
    fetch driver c = driver.fetch c >>= fun
      | none => pure none
      | some cells =>
        (fun labels => some (Keyed.ofList (labels.zip cells))) <$> driver.labels c := by
  funext s
  simp only [fetch, bind, EStateM.bind]
  cases driver.fetch c s with
  | error f t => rfl
  | ok row t =>
    cases row with
    | none => rfl
    | some cells =>
      simp only [Functor.map, EStateM.map]
      cases driver.labels c t <;> rfl

theorem onCursors_fetch (c : Nat) : OnCursors Watched.calls (fetch driver.watched c) := by
  rw [fetch_eq]
  refine onCursors_bind (onCursors_watch rfl _) fun row => ?_
  cases row with
  | none => exact onCursors_pure none
  | some cells =>
    intro s
    simp only [EndsIn, ends_map]
    exact onCursors_watch rfl _ s

theorem worksBy_watched (driver : CursorDriver σ) (style : MarkerStyle) (validate : Bool) :
    (connection driver.watched style validate).WorksBy Worked where
  refl s := Grows.refl _ s.calls
  trans := Grows.trans
  prepare sql n := by
    have opened : OnCursors calls (ask driver.watched.cursor) :=
      onCursors_ask (onCursors_watch rfl _)
    have prepared (c : Nat) : OnCursors calls
        (do
          modify fun s : Cursors (Watched σ) => { s with prepared := s.prepared ++ [c] }
          pure ⟨c, sql⟩ : Request (Cursors (Watched σ)) Handle) :=
      fun s => Grows.refl _ (calls s)
    cases validate with
    | false => exact onCursors_bind opened prepared
    | true =>
      exact onCursors_bind (onCursors_explain sql n) fun _ => onCursors_bind opened prepared
  execute h values :=
    onCursors_bind (onCursors_ask (onCursors_watch rfl _)) fun _ => onCursors_pure _
  describe h := onCursors_ask (onCursors_watch rfl _)
  fetch h := onCursors_ask (onCursors_fetch h.id)

structure Watches (conn : Connection (Cursors (Watched σ))) : Prop extends conn.WorksBy Worked where
  rollback : ∀ s, EndsIn conn.rollback s fun t => t.calls = s.calls ++ [.rollback]
  close : ∀ s, EndsIn conn.close s fun t =>
    ∃ cursors, Grows DriverCall.closesCursor s.calls cursors ∧ t.calls = cursors ++ [.close]

theorem watches_connection (driver : CursorDriver σ) (style : MarkerStyle) (validate : Bool) :
    Watches (connection driver.watched style validate) where
  toWorksBy := worksBy_watched driver style validate
  rollback s := by
    simp only [EndsIn, connection, ends_askDriver, CursorDriver.watched, CursorDriver.ends_watch]
    exact (ends_self _ _).imp (fun _ _ _ => rfl) fun _ _ _ => rfl
  close s := by
    have asked (state : Watched σ) :
        EndsIn (ask driver.watched.close) (⟨state, []⟩ : Cursors (Watched σ))
          fun t => calls t = state.calls ++ [.close] := by
      simp only [EndsIn, ends_askDriver, CursorDriver.watched, CursorDriver.ends_watch]
      exact (ends_self _ _).imp (fun _ _ _ => rfl) fun _ _ _ => rfl
    refine (asked _).mono fun t last => ⟨_, ?_, last⟩
    refine @List.foldlRecOn _ _
      (fun state : Watched σ => Grows DriverCall.closesCursor (calls s) state.calls)
      s.prepared _ _ (Grows.refl _ _) ?_
    intro state grown c _
    simp only [CursorDriver.watched, CursorDriver.watch]
    have closed : Grows DriverCall.closesCursor (calls s) (state.calls ++ [.closeCursor c]) :=
      grown.trans (.concat rfl _)
    cases driver.closeCursor c state.state <;> exact closed

end Cursors

end QueryBook
