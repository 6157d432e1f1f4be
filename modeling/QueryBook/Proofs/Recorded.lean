import QueryBook.Book.Basic
import QueryBook.Proofs.Ends

set_option autoImplicit false

namespace QueryBook

def Grows {α : Type} (sort : α → Bool) (xs ys : List α) : Prop :=
  ∃ added, ys = xs ++ added ∧ ∀ q ∈ added, sort q = true

theorem Grows.refl {α : Type} (sort : α → Bool) (xs : List α) : Grows sort xs xs :=
  ⟨[], by simp⟩

theorem Grows.concat {α : Type} {sort : α → Bool} {q : α} (sorted : sort q = true) (xs : List α) :
    Grows sort xs (xs ++ [q]) :=
  ⟨[q], rfl, by simpa using sorted⟩

theorem Grows.trans {α : Type} {sort : α → Bool} {xs ys zs : List α} (first : Grows sort xs ys)
    (second : Grows sort ys zs) : Grows sort xs zs := by
  obtain ⟨added, same, sorted⟩ := first
  obtain ⟨more, same', sorted'⟩ := second
  refine ⟨added ++ more, by rw [same', same, List.append_assoc], fun q member => ?_⟩
  rcases List.mem_append.mp member with member | member
  · exact sorted q member
  · exact sorted' q member

namespace Connection

inductive Asked where
  | prepare (sql : String) (parameters : Nat)
  | execute (h : Handle) (values : List Value) (answer : Except Fault (Option Int))
  | describe (h : Handle)
  | fetch (h : Handle)
  | commit
  | rollback
  | close

namespace Asked

def isPrepare : Asked → Bool
  | .prepare _ _ => true
  | _ => false

def isRead : Asked → Bool
  | .describe _ | .fetch _ => true
  | _ => false

def isWork : Asked → Bool
  | .commit | .rollback | .close => false
  | _ => true

theorem isWork_of_isPrepare (q : Asked) (prepares : q.isPrepare = true) : q.isWork = true := by
  cases q <;> first | rfl | cases prepares

end Asked

inductive Effect where
  | execute (sql : String) (values : List Value) (answer : Except Fault (Option Int))
  | describe (sql : String)
  | fetch (sql : String)
  | commit
  | rollback
  | close

-- Preparing a text does nothing that shows.
def Asked.effect? : Asked → Option Effect
  | .prepare _ _ => none
  | .execute h values answer => some (.execute h.sql values answer)
  | .describe h => some (.describe h.sql)
  | .fetch h => some (.fetch h.sql)
  | .commit => some .commit
  | .rollback => some .rollback
  | .close => some .close

structure Recorded (σ : Type) where
  state : σ
  asked : List Asked

def Effect.answer? : Effect → Option (Option Int)
  | .execute _ _ (.ok answer) => some answer
  | _ => none

def Recorded.effects {σ : Type} (s : Recorded σ) : List Effect :=
  s.asked.filterMap Asked.effect?

def Recorded.answers {σ : Type} (s : Recorded σ) : List (Option Int) :=
  s.effects.filterMap Effect.answer?

variable {σ α : Type}

def record (entry : Except Fault α → Asked) (request : Request σ α) : Request (Recorded σ) α :=
  fun s =>
    match request s.state with
    | .ok a t => .ok a ⟨t, s.asked ++ [entry (.ok a)]⟩
    | .error f t => .error f ⟨t, s.asked ++ [entry (.error f)]⟩

theorem ends_record {entry : Except Fault α → Asked} {request : Request σ α} {s : Recorded σ}
    {good : α → Recorded σ → Prop} {bad : Fault → Recorded σ → Prop} :
    Action.Ends (record entry request) s good bad ↔
      Action.Ends request s.state (fun a t => good a ⟨t, s.asked ++ [entry (.ok a)]⟩)
        (fun f t => bad f ⟨t, s.asked ++ [entry (.error f)]⟩) := by
  simp only [Action.Ends, record]
  cases request s.state <;> rfl

def recorded (conn : Connection σ) : Connection (Recorded σ) where
  style := conn.style
  prepare := fun sql n => record (fun _ => .prepare sql n) (conn.prepare sql n)
  execute := fun h values => record (.execute h values) (conn.execute h values)
  describe := fun h => record (fun _ => .describe h) (conn.describe h)
  fetch := fun h => record (fun _ => .fetch h) (conn.fetch h)
  commit := record (fun _ => .commit) conn.commit
  rollback := record (fun _ => .rollback) conn.rollback
  close := record (fun _ => .close) conn.close
  rowsLeft := fun h s => conn.rowsLeft h s.state
  rowsLeft_fetch := by
    intro h s row t fetched
    unfold record at fetched
    split at fetched
    next found =>
      cases fetched
      exact conn.rowsLeft_fetch found
    next => cases fetched

def Recorded.Adds (sort : Asked → Bool) (s t : Recorded σ) : Prop :=
  ∃ added, t.asked = s.asked ++ added ∧ ∀ q ∈ added, sort q = true

theorem Recorded.Adds.refl (sort : Asked → Bool) (s : Recorded σ) : Adds sort s s :=
  Grows.refl sort s.asked

theorem Recorded.Adds.trans {sort : Asked → Bool} {s t u : Recorded σ} (first : Adds sort s t)
    (second : Adds sort t u) : Adds sort s u :=
  Grows.trans first second

theorem Recorded.Adds.imp {sort other : Asked → Bool} {s t : Recorded σ} (adds : Adds sort s t)
    (implies : ∀ q, sort q = true → other q = true) : Adds other s t := by
  obtain ⟨added, same, sorted⟩ := adds
  exact ⟨added, same, fun q member => implies q (sorted q member)⟩

theorem Recorded.ends_adds {sort : Asked → Bool} (entry : Except Fault α → Asked)
    (request : Request σ α) (sorted : ∀ answer, sort (entry answer) = true) (s : Recorded σ) :
    Action.EndsIn (record entry request) s (Adds sort s) := by
  simp only [ends_record]
  unfold Action.Ends
  cases request s.state <;> exact Grows.concat (sorted _) s.asked

structure ReadsBy (conn : Connection σ) (moves : σ → σ → Prop) : Prop where
  refl : ∀ s, moves s s
  trans : ∀ {s t u}, moves s t → moves t u → moves s u
  describe : ∀ h s, Action.Ends (conn.describe h) s (fun _ t => moves s t) (fun _ t => moves s t)
  fetch : ∀ h s, Action.Ends (conn.fetch h) s (fun _ t => moves s t) (fun _ t => moves s t)

structure WorksBy (conn : Connection σ) (moves : σ → σ → Prop) : Prop
    extends ReadsBy conn moves where
  prepare : ∀ sql n s, Action.Ends (conn.prepare sql n) s (fun _ t => moves s t)
    (fun _ t => moves s t)
  execute : ∀ h values s, Action.Ends (conn.execute h values) s (fun _ t => moves s t)
    (fun _ t => moves s t)

structure MovesBy (conn : Connection σ) (moves : σ → σ → Prop) : Prop
    extends WorksBy conn moves where
  commit : ∀ s, Action.Ends conn.commit s (fun _ t => moves s t) (fun _ t => moves s t)
  rollback : ∀ s, Action.Ends conn.rollback s (fun _ t => moves s t) (fun _ t => moves s t)

theorem MovesBy.imp {conn : Connection σ} {moves later : σ → σ → Prop}
    (movesBy : conn.MovesBy moves) (implies : ∀ {s t}, moves s t → later s t)
    (refl : ∀ s, later s s) (trans : ∀ {s t u}, later s t → later t u → later s u) :
    conn.MovesBy later := by
  have each {α : Type} {request : Request σ α} {s : σ}
      (ends : Action.EndsIn request s (moves s)) :
      Action.EndsIn request s (later s) :=
    ends.mono fun _ => implies
  exact {
    refl
    trans
    prepare := fun sql n s => each (movesBy.prepare sql n s)
    execute := fun h values s => each (movesBy.execute h values s)
    describe := fun h s => each (movesBy.describe h s)
    fetch := fun h s => each (movesBy.fetch h s)
    commit := fun s => each (movesBy.commit s)
    rollback := fun s => each (movesBy.rollback s) }

theorem MovesBy.any (conn : Connection σ) : conn.MovesBy fun _ _ => True := by
  have any {α : Type} (request : Request σ α) (s : σ) :
      Action.EndsIn request s (fun _ => True) :=
    (Action.ends_self request s).imp (fun _ _ _ => trivial) fun _ _ _ => trivial
  exact {
    refl := fun _ => trivial
    trans := fun _ _ => trivial
    prepare := fun sql n => any (conn.prepare sql n)
    execute := fun h values => any (conn.execute h values)
    describe := fun h => any (conn.describe h)
    fetch := fun h => any (conn.fetch h)
    commit := any conn.commit
    rollback := any conn.rollback }

theorem MovesBy.recorded {conn : Connection σ} {moves : σ → σ → Prop}
    (movesBy : conn.MovesBy moves) : conn.recorded.MovesBy fun s t => moves s.state t.state where
  refl := fun s => movesBy.refl s.state
  trans := movesBy.trans
  prepare sql n s := by
    simpa only [Connection.recorded, ends_record] using movesBy.prepare sql n s.state
  execute h values s := by
    simpa only [Connection.recorded, ends_record] using movesBy.execute h values s.state
  describe h s := by
    simpa only [Connection.recorded, ends_record] using movesBy.describe h s.state
  fetch h s := by
    simpa only [Connection.recorded, ends_record] using movesBy.fetch h s.state
  commit s := by
    simpa only [Connection.recorded, ends_record] using movesBy.commit s.state
  rollback s := by
    simpa only [Connection.recorded, ends_record] using movesBy.rollback s.state

theorem worksBy_adds (conn : Connection σ) :
    conn.recorded.WorksBy (Recorded.Adds Asked.isWork) where
  refl := Recorded.Adds.refl _
  trans := Recorded.Adds.trans
  prepare sql n := Recorded.ends_adds (fun _ => .prepare sql n) (conn.prepare sql n) fun _ => rfl
  execute h values := Recorded.ends_adds (.execute h values) (conn.execute h values) fun _ => rfl
  describe h := Recorded.ends_adds (fun _ => .describe h) (conn.describe h) fun _ => rfl
  fetch h := Recorded.ends_adds (fun _ => .fetch h) (conn.fetch h) fun _ => rfl

theorem answers_append {s : Recorded σ} {state : σ} (q : Asked) :
    Recorded.answers ⟨state, s.asked ++ [q]⟩ =
      s.answers ++ (q.effect?.bind Effect.answer?).toList := by
  cases found : q.effect? with
  | none => simp [Recorded.answers, Recorded.effects, found]
  | some effect =>
    cases answered : effect.answer? <;>
      simp [Recorded.answers, Recorded.effects, found, answered]

theorem readsBy_answers (conn : Connection σ) :
    conn.recorded.ReadsBy fun s t => t.answers = s.answers where
  refl := fun _ => rfl
  trans := fun first second => second.trans first
  describe h s := by
    simp only [Connection.recorded, ends_record, answers_append]
    exact (Action.ends_self _ _).imp (fun _ _ _ => List.append_nil _) fun _ _ _ => List.append_nil _
  fetch h s := by
    simp only [Connection.recorded, ends_record, answers_append]
    exact (Action.ends_self _ _).imp (fun _ _ _ => List.append_nil _) fun _ _ _ => List.append_nil _

theorem fetchAll_eq (conn : Connection σ) (h : Handle) :
    conn.fetchAll h = conn.fetch h >>= fun
      | none => pure []
      | some row => List.cons row <$> conn.fetchAll h := by
  funext s
  conv => lhs; rw [Connection.fetchAll]
  simp only [bind, EStateM.bind]
  split
  next fault t found => simp only [found]
  next t found => simp only [found]; rfl
  next row t found =>
    simp only [found, Functor.map, EStateM.map]
    cases conn.fetchAll h t <;> rfl

end Connection

end QueryBook
