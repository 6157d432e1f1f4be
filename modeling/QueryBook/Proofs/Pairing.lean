import QueryBook.Proofs.Agreement
import QueryBook.Proofs.Statements

set_option autoImplicit false

namespace QueryBook

open QueryBook.Action

namespace StatementKind

def share (kind : StatementKind) (answer : Option Int) : Int :=
  match kind with
  | .mutation => max (answer.getD 0) 0
  | _ => 0

end StatementKind

namespace Connection

variable {σ τ : Type} {conn : Connection σ} {other : Connection τ} {h k : Handle}
  {Level Left : σ → τ → Prop}

-- Two results that are read side by side. Level states have the same answer to give and stay level;
-- a request that fails leaves them as `Left` says.
structure ReadsLevel (conn : Connection σ) (h : Handle) (other : Connection τ) (k : Handle)
    (Level Left : σ → τ → Prop) : Prop where
  left : ∀ {u v}, Level u v → Left u v
  describe : ∀ {u v}, Level u v → Agree (conn.describe h) u (other.describe k) v
    (fun a u b v => a = b ∧ Level u v) (fun f u g v => f = g ∧ Left u v)
  fetch : ∀ {u v}, Level u v → Agree (conn.fetch h) u (other.fetch k) v
    (fun a u b v => a = b ∧ Level u v) (fun f u g v => f = g ∧ Left u v)

theorem ReadsLevel.fetchAll (reads : ReadsLevel conn h other k Level Left) {u : σ} {v : τ}
    (level : Level u v) : Agree (conn.fetchAll h) u (other.fetchAll k) v
      (fun a u b v => a = b ∧ Level u v) (fun f u g v => f = g ∧ Left u v) := by
  induction left : conn.rowsLeft h u using Nat.strongRecOn generalizing u v with
  | ind left ih =>
    rw [fetchAll_eq conn h, fetchAll_eq other k]
    have fetched := ((reads.fetch level).and_left (ends_self _ u)).imp
      (fun _ _ _ _ done => done) fun _ _ _ _ failed => failed.1
    apply fetched.bind
    intro row u' _ v' ended
    obtain ⟨⟨rfl, level⟩, answered⟩ := ended
    cases row with
    | none => exact ⟨rfl, level⟩
    | some row =>
      have less := left ▸ conn.rowsLeft_fetch answered
      apply Agree.map
      apply (ih _ less level rfl).imp
      · exact fun _ _ _ _ ended => ⟨congrArg _ ended.1, ended.2⟩
      · exact fun _ _ _ _ failed => failed

theorem raises_of_fetchAll {f : Fault} {s t : σ} (failed : conn.fetchAll h s = .error f t) :
    conn.Raises f := by
  induction left : conn.rowsLeft h s using Nat.strongRecOn generalizing s with
  | ind left ih =>
    unfold Connection.fetchAll at failed
    split at failed
    next answered =>
      cases failed
      exact .fetch answered
    · cases failed
    next answered =>
      have less := left ▸ conn.rowsLeft_fetch answered
      split at failed
      next rest =>
        cases failed
        exact ih _ less rest rfl
      · cases failed

end Connection

open Connection

namespace Stage

variable {σ τ α β : Type} {conn : Connection σ} {other : Connection τ} {h k : Handle}
  {Level Left : σ → τ → Prop} {j j' : Journal} {stage : Stage σ} {aside : Stage τ} {sql : String}
  {Next : α → σ → τ → Prop}

structure Beside (related : σ → τ → Prop) (j j' : Journal) (stage : Stage σ) (aside : Stage τ) :
    Prop where
  related : related stage.conn aside.conn
  data : stage.data = aside.data
  journal : stage.journal = j
  aside : aside.journal = j'

theorem Beside.imp {Next : σ → τ → Prop} (beside : Beside Level j j' stage aside)
    (implies : Level stage.conn aside.conn → Next stage.conn aside.conn) :
    Beside Next j j' stage aside :=
  ⟨implies beside.related, beside.data, beside.journal, beside.aside⟩

def Noted (stage t : Stage σ) : Prop :=
  t.journal = stage.journal ∨
    ∃ text, t.journal = stage.journal ++ [.debug "statement" ("SQL " ++ text)]

def Breaks (conn : Connection σ) (Left : σ → τ → Prop) (j j' : Journal) (e : Error)
    (stage : Stage σ) (e' : Error) (aside : Stage τ) : Prop :=
  e = e' ∧ e.Late conn ∧ Beside Left j j' stage aside

theorem agree_ask {request : Request σ α} {request' : Request τ α}
    (raises : ∀ {f s t}, request s = .error f t → conn.Raises f)
    (beside : Beside Level j j' stage aside)
    (agree : Agree request stage.conn request' aside.conn
      (fun a u b v => a = b ∧ Next a u v) (fun f u g v => f = g ∧ Left u v)) :
    Agree (Statement.ask sql request) stage (Statement.ask sql request') aside
      (fun a s b t => a = b ∧ Beside (Next a) j j' s t) (Breaks conn Left j j') := by
  apply agree_focus
  apply agree_focus
  apply agree_request
  apply (agree.and_left (ends_self _ _)).imp
  · exact fun _ _ _ _ done =>
      ⟨done.1.1, done.1.2, beside.data, beside.journal, beside.aside⟩
  · exact fun _ _ _ _ failed => ⟨congrArg _ failed.1.1, (raises failed.2).late (some sql),
      failed.1.2, beside.data, beside.journal, beside.aside⟩

theorem agree_onData {act : Action Fields α} (left : ∀ {u v}, Level u v → Left u v)
    (fails : ∀ data, Ends act data (fun _ _ => True) (fun e _ => e.Late conn))
    (beside : Beside Level j j' stage aside) :
    Agree (onData act) stage (onData act) aside
      (fun a s b t => a = b ∧ Beside Level j j' s t) (Breaks conn Left j j') := by
  apply agree_focus
  rw [beside.data]
  rw [agree_iff]
  cases acted : act aside.data with
  | ok a data => exact ⟨rfl, beside.related, rfl, beside.journal, beside.aside⟩
  | error e data =>
    have late := (fails aside.data).of_error acted
    exact ⟨rfl, late, left beside.related, rfl, beside.journal, beside.aside⟩

end Stage

namespace Statement

open Stage

variable {σ τ : Type} {conn : Connection σ} {other : Connection τ} {h k : Handle}
  {Level Left : σ → τ → Prop} {j j' : Journal} {stage : Stage σ} {aside : Stage τ} {sql : String}

theorem agree_storeRows (reads : ReadsLevel conn h other k Level Left)
    (beside : Beside Level j j' stage aside) :
    Agree (storeRows conn sql h) stage (storeRows other sql k) aside
      (fun _ s _ t => Beside Level j j' s t) (Breaks conn Left j j') := by
  apply (agree_ask .describe beside (reads.describe beside.related)).bind
  intro labels s _ t ended
  obtain ⟨rfl, beside⟩ := ended
  apply (agree_ask raises_of_fetchAll beside (reads.fetchAll beside.related)).bind
  intro rows s _ t ended
  obtain ⟨rfl, beside⟩ := ended
  refine (agree_onData reads.left (fun data => ?_) beside).imp (fun _ _ _ _ ended => ended.2)
    fun _ _ _ _ failed => failed
  cases assigned : Data.assignRows data labels rows with
  | ok data' => simp only [Ends, assigned]
  | error e =>
    simpa only [Ends, assigned] using Error.late_of_dataShape (Data.kind_of_assignRows assigned)

theorem agree_storeRow (reads : ReadsLevel conn h other k Level Left) (placement : Placement)
    (required : Bool) (beside : Beside Level j j' stage aside) :
    Agree (storeRow conn placement required sql h) stage (storeRow other placement required sql k)
      aside (fun _ s _ t => Beside Level j j' s t) (Breaks conn Left j j') := by
  apply (agree_ask .fetch beside (reads.fetch beside.related)).bind
  intro row s _ t ended
  obtain ⟨rfl, beside⟩ := ended
  cases row with
  | none =>
    cases required
    · exact beside
    · exact ⟨rfl, .of_kind rfl rfl, beside.imp reads.left⟩
  | some row =>
    have merged (data : Fields) : Ends (placement.mergeRow row) data (fun _ _ => True)
        (fun e _ => e.Late conn) := by
      apply (ends_self _ data).imp
      · exact fun _ _ _ => trivial
      · exact fun _ _ rejected => Error.late_of_dataShape (Placement.kind_of_mergeRow rejected)
    apply (agree_onData reads.left merged beside).bind
    intro _ s _ t ended
    obtain ⟨-, beside⟩ := ended
    apply (agree_ask .fetch beside (reads.fetch beside.related)).bind
    intro second s _ t ended
    obtain ⟨rfl, beside⟩ := ended
    cases second with
    | none => exact beside
    | some second => exact ⟨rfl, .of_kind rfl rfl, beside.imp reads.left⟩

theorem agree_collect {s s' : Statement} (reads : ReadsLevel conn h other k Level Left)
    (kind : s.kind = s'.kind) (placed : s.placement = s'.placement) (affected : Option Int)
    (beside : Beside Level j j' stage aside) :
    Agree (s.collect conn sql h affected) stage (s'.collect other sql k affected) aside
      (fun n s₁ m t => n = m ∧ (n : Int) = s.kind.share affected ∧ Beside Level j j' s₁ t)
      (Breaks conn Left j j') := by
  unfold collect
  rw [← kind, ← placed]
  cases s.kind with
  | mutation => exact ⟨rfl, Int.toNat_eq_max _, beside⟩
  | zeroOrMore =>
    exact (agree_storeRows reads beside).bind fun _ _ _ _ beside => ⟨rfl, rfl, beside⟩
  | zeroOrOne =>
    exact (agree_storeRow reads _ false beside).bind fun _ _ _ _ beside => ⟨rfl, rfl, beside⟩
  | exactlyOne =>
    exact (agree_storeRow reads _ true beside).bind fun _ _ _ _ beside => ⟨rfl, rfl, beside⟩

end Statement

-- How two runs of a statement go on side by side: with the text and what has been prepared for it,
-- with the result of the execution, and where they fail.
structure Pairing {σ τ : Type} (conn : Connection σ) (s : Statement) (start : σ)
    (other : Connection τ) (s' : Statement) (start' : τ) (data : Fields) where
  Ready : String → Handle → Handle → σ → τ → Prop
  Level : Handle → Handle → Option Int → σ → τ → Prop
  Left : Error → σ → τ → Prop
  ready : Agree (s.ready conn data) start (s'.ready other data) start'
    (fun a u b v => a.1 = b.1 ∧ Ready a.1 a.2 b.2 u v) (fun e u e' v => e = e' ∧ Left e u v)
  valueless : ∀ {sql h k u v e}, Ready sql h k u v → s.parameters data = .error e → Left e u v
  execute : ∀ {sql h k u v values}, Ready sql h k u v → s.parameters data = .ok values →
    Agree (conn.execute h values) u (other.execute k values) v
      (fun a u b v => a = b ∧ Level h k a u v) (fun f u g v => f = g ∧ ∀ e, Left e u v)
  reads : ∀ h k answer,
    ReadsLevel conn h other k (Level h k answer) fun u v => ∀ e, Left e u v

namespace Pairing

open Stage Statement

variable {σ τ : Type} {conn : Connection σ} {other : Connection τ} {s s' : Statement}
  {stage : Stage σ} {aside : Stage τ}

variable (pairing : Pairing conn s stage.conn other s' aside.conn stage.data)

theorem agree_ready (same : stage.data = aside.data) :
    Agree (onLink (Link.onConn (s.ready conn stage.data))) stage
      (onLink (Link.onConn (s'.ready other stage.data))) aside
      (fun a t b u => a.1 = b.1 ∧
        Beside (pairing.Ready a.1 a.2 b.2) stage.journal aside.journal t u)
      (fun e t e' u => e = e' ∧ e.Late conn ∧ t.data = u.data ∧ stage.Noted t ∧
        pairing.Left e t.conn u.conn) := by
  apply agree_focus
  apply agree_focus
  apply (pairing.ready.and_left (ends_ready_late s stage.data stage.conn)).imp
  · exact fun _ _ _ _ done => ⟨done.1.1, done.1.2, same, rfl, rfl⟩
  · exact fun _ _ _ _ failed => ⟨failed.1.1, failed.2, same, .inl rfl, failed.1.2⟩

-- Once both texts are ready and every bind has its value, the statement is executed.
theorem agree_answer {sql : String} {h k : Handle} {values : List Value} {j j' : Journal}
    {t : Stage σ} {u : Stage τ} (kind : s.kind = s'.kind) (placed : s.placement = s'.placement)
    (resolved : s.parameters stage.data = .ok values)
    (beside : Beside (pairing.Ready sql h k) j j' t u) :
    Agree (ask sql (conn.execute h values) >>= s.collect conn sql h) t
      (ask sql (other.execute k values) >>= s'.collect other sql k) u
      (fun n t m u => n = m ∧ t.data = u.data ∧ t.journal = j ∧
        ∃ h k answer, (n : Int) = s.kind.share answer ∧ pairing.Level h k answer t.conn u.conn)
      (Breaks conn (fun u v => ∀ e, pairing.Left e u v) j j') := by
  apply (agree_ask .execute beside (pairing.execute beside.related resolved)).bind
  intro answer t _ u ended
  obtain ⟨rfl, beside⟩ := ended
  apply (agree_collect (pairing.reads h k answer) kind placed answer beside).imp
  · intro n t _ u ended
    obtain ⟨rfl, counted, beside⟩ := ended
    exact ⟨rfl, beside.data, beside.journal, h, k, answer, counted, beside.related⟩
  · exact fun _ _ _ _ broken => broken

theorem agree_execute (kind : s.kind = s'.kind) (marked : s.marked = s'.marked)
    (placed : s.placement = s'.placement) (same : stage.data = aside.data) :
    Agree (s.execute conn) stage (s'.execute other) aside
      (fun n t m u => n = m ∧ t.data = u.data ∧ stage.Noted t ∧
        ∃ h k answer, (n : Int) = s.kind.share answer ∧ pairing.Level h k answer t.conn u.conn)
      (fun e t e' u => e = e' ∧ e.Late conn ∧ t.data = u.data ∧ stage.Noted t ∧
        pairing.Left e t.conn u.conn) := by
  have parameters : s'.parameters = s.parameters := by
    funext data
    simp only [Statement.parameters, marked, placed]
  unfold Statement.execute
  apply agree_get_bind
  simp only [← same, parameters]
  apply (pairing.agree_ready same).bind
  intro made t made' u ended
  obtain ⟨sql, h⟩ := made
  obtain ⟨_, k⟩ := made'
  obtain ⟨rfl, beside⟩ := ended
  apply agree_ofExcept_bind
  · intro values resolved
    let record : Record :=
      .debug "statement" ("SQL " ++ sql ++ " " ++ (Value.list values).listing)
    have noted {t : Stage σ} (same : t.journal = stage.journal ++ [record]) : stage.Noted t :=
      .inr ⟨sql ++ (" " ++ (Value.list values).listing), by
        rw [same, ← String.append_assoc, ← String.append_assoc]⟩
    have notes : Agree (onLink (Link.note record)) t (onLink (Link.note record)) u
        (fun _ t _ u => Beside (pairing.Ready sql h k) (stage.journal ++ [record])
          (aside.journal ++ [record]) t u)
        (fun _ _ _ _ => False) :=
      ⟨beside.related, beside.data, congrArg (· ++ [record]) beside.journal,
        congrArg (· ++ [record]) beside.aside⟩
    apply (notes.imp (fun _ _ _ _ done => done) fun _ _ _ _ no => no.elim).bind
    intro _ t _ u beside
    apply (pairing.agree_answer kind placed resolved beside).imp
    · exact fun _ _ _ _ ended => ⟨ended.1, ended.2.1, noted ended.2.2.1, ended.2.2.2⟩
    · intro e t _ u broken
      obtain ⟨rfl, late, beside⟩ := broken
      exact ⟨rfl, late, beside.data, noted beside.journal, beside.related e⟩
  · intro e unresolved
    exact ⟨rfl, late_of_parameters unresolved, beside.data, .inl beside.journal,
      pairing.valueless beside.related unresolved⟩

end Pairing

structure Progress {σ : Type} (conn : Connection σ) (s : Statement) (start : σ) (data : Fields) where
  Ready : String → Handle → σ → Prop
  Reads : Handle → Option Int → σ → Prop
  Left : Error → σ → Prop
  ready : Ends (s.ready conn data) start (fun made t => Ready made.1 made.2 t) Left
  valueless : ∀ {sql h t e}, Ready sql h t → s.parameters data = .error e → Left e t
  execute : ∀ {sql h t values}, Ready sql h t → s.parameters data = .ok values →
    Ends (conn.execute h values) t (fun answer u => Reads h answer u) (fun _ u => ∀ e, Left e u)
  describe : ∀ {h answer t}, Reads h answer t →
    Ends (conn.describe h) t (fun _ u => Reads h answer u) (fun _ u => ∀ e, Left e u)
  fetch : ∀ {h answer t}, Reads h answer t →
    Ends (conn.fetch h) t (fun _ u => Reads h answer u) (fun _ u => ∀ e, Left e u)
  left : ∀ {h answer t} e, Reads h answer t → Left e t

namespace Progress

variable {σ : Type} {conn : Connection σ} {s : Statement}

def pairing {start : σ} {data : Fields} (progress : Progress conn s start data) :
    Pairing conn s start conn s start data where
  Ready sql h k u v := h = k ∧ u = v ∧ progress.Ready sql h u
  Level h k answer u v := h = k ∧ u = v ∧ progress.Reads h answer u
  Left e u v := u = v ∧ progress.Left e u
  ready := progress.ready.agree.imp
    (fun _ _ _ _ done => ⟨congrArg _ done.1, congrArg _ done.1, done.2⟩)
    fun _ _ _ _ failed => failed
  valueless ready unresolved := ⟨ready.2.1, progress.valueless ready.2.2 unresolved⟩
  execute := by
    rintro sql h _ u _ values ⟨rfl, rfl, ready⟩ resolved
    exact (progress.execute ready resolved).agree.imp
      (fun _ _ _ _ done => ⟨done.1, rfl, done.2⟩)
      fun _ _ _ _ failed => ⟨failed.1, fun e => ⟨failed.2.1, failed.2.2 e⟩⟩
  reads h k answer := by
    have same {α : Type} {request : Request σ α} {u : σ}
        (ends : Ends request u (fun _ t => progress.Reads h answer t)
          (fun _ t => ∀ e, progress.Left e t)) :
        Agree request u request u (fun a u b v => a = b ∧ h = h ∧ u = v ∧ progress.Reads h answer u)
          (fun f u g v => f = g ∧ ∀ e, u = v ∧ progress.Left e u) :=
      ends.agree.imp (fun _ _ _ _ done => ⟨done.1, rfl, done.2⟩)
        fun _ _ _ _ failed => ⟨failed.1, fun e => ⟨failed.2.1, failed.2.2 e⟩⟩
    refine ⟨fun level e => ⟨level.2.1, progress.left e level.2.2⟩, ?_, ?_⟩
    · rintro u _ ⟨rfl, rfl, reads⟩
      exact same (progress.describe reads)
    · rintro u _ ⟨rfl, rfl, reads⟩
      exact same (progress.fetch reads)

theorem ends_execute {stage : Stage σ} (progress : Progress conn s stage.conn stage.data) :
    Ends (s.execute conn) stage
      (fun n t => stage.Noted t ∧
        ∃ h answer, (n : Int) = s.kind.share answer ∧ progress.Reads h answer t.conn)
      (fun e t => e.Late conn ∧ stage.Noted t ∧ progress.Left e t.conn) := by
  apply (progress.pairing.agree_execute rfl rfl rfl rfl).ends.imp
  · rintro n t ⟨-, -, noted, h, _, answer, counted, -, -, reads⟩
    exact ⟨noted, h, answer, counted, reads⟩
  · rintro e t ⟨-, late, -, noted, -, left⟩
    exact ⟨late, noted, left⟩

end Progress

namespace Statement

variable {σ : Type} {conn : Connection σ} {moves : σ → σ → Prop}

theorem ends_ready (works : conn.WorksBy moves) (s : Statement) (data : Fields) (state : σ) :
    EndsIn (s.ready conn data) state (moves state) := by
  unfold ready
  cases s.handle with
  | some h => exact works.refl state
  | none =>
    simp only [prepareText, ends_bind, ends_ofExcept, ends_request, ends_pure]
    cases s.textFor data with
    | error e => exact works.refl state
    | ok sql => exact works.prepare sql s.marked.bindNames.length state

def progressBy (works : conn.WorksBy moves) (s : Statement) (state : σ) (data : Fields) :
    Progress conn s state data where
  Ready _ _ t := moves state t
  Reads _ _ t := moves state t
  Left _ t := moves state t
  ready := ends_ready works s data state
  valueless moved _ := moved
  execute moved _ := (works.execute _ _ _).imp (fun _ _ later => works.trans moved later)
    fun _ _ later _ => works.trans moved later
  describe moved := (works.describe _ _).imp (fun _ _ later => works.trans moved later)
    fun _ _ later _ => works.trans moved later
  fetch moved := (works.fetch _ _).imp (fun _ _ later => works.trans moved later)
    fun _ _ later _ => works.trans moved later
  left _ moved := moved

theorem ends_execute_moves (works : conn.WorksBy moves) (s : Statement) (stage : Stage σ) :
    Ends (s.execute conn) stage (fun _ t => moves stage.conn t.conn)
      (fun e t => moves stage.conn t.conn ∧ e.Late conn) := by
  apply (progressBy works s stage.conn stage.data).ends_execute.imp
  · rintro n t ⟨-, _, _, -, moved⟩
    exact moved
  · exact fun _ _ failed => ⟨failed.2.2, failed.1⟩

end Statement

end QueryBook
