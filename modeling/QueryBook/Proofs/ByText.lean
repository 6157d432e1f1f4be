import QueryBook.Proofs.Agreement
import QueryBook.Proofs.Statements
import QueryBook.Script.Basic

set_option autoImplicit false

namespace QueryBook

namespace Connection

open QueryBook.Action

variable {σ : Type} {conn : Connection σ}

-- The connection answers by the text: preparing changes nothing that shows, a text is prepared
-- always or never, and handles of one text do the same in states that are alike.
structure ByText (conn : Connection σ) where
  Alike : σ → σ → Prop
  Prepared : σ → Handle → String → Nat → Prop
  Level : σ → Handle → σ → Handle → Prop
  refusal : String → Nat → Option Fault
  alike : Equivalence Alike
  sql_eq : ∀ {s h sql n}, Prepared s h sql n → h.sql = sql
  keeps : conn.MovesBy fun s t => ∀ h sql n, Prepared s h sql n → Prepared t h sql n
  prepare : ∀ sql n s, Ends (conn.prepare sql n) s
    (fun h t => refusal sql n = none ∧ Alike s t ∧ Prepared t h sql n)
    (fun f t => refusal sql n = some f ∧ Alike s t)
  execute : ∀ {s t h k sql n} values, Alike s t → Prepared s h sql n → Prepared t k sql n →
    Agree (conn.execute h values) s (conn.execute k values) t
      (fun a s b t => a = b ∧ Alike s t ∧ Level s h t k) (fun f s g t => f = g ∧ Alike s t)
  describe : ∀ {s t h k}, Alike s t → Level s h t k → Agree (conn.describe h) s (conn.describe k) t
    (fun a s b t => a = b ∧ Alike s t ∧ Level s h t k) (fun f s g t => f = g ∧ Alike s t)
  fetch : ∀ {s t h k}, Alike s t → Level s h t k → Agree (conn.fetch h) s (conn.fetch k) t
    (fun a s b t => a = b ∧ Alike s t ∧ Level s h t k) (fun f s g t => f = g ∧ Alike s t)
  commit : ∀ {s t}, Alike s t → Agree conn.commit s conn.commit t
    (fun a s b t => a = b ∧ Alike s t) (fun f s g t => f = g ∧ Alike s t)
  rollback : ∀ {s t}, Alike s t → Agree conn.rollback s conn.rollback t
    (fun a s b t => a = b ∧ Alike s t) (fun f s g t => f = g ∧ Alike s t)

theorem agree_record {α : Type} {alike : σ → σ → Prop} {entry entry' : Except Fault α → Asked}
    {request request' : Request σ α} {s t : Recorded σ} {good : σ → σ → Prop}
    (agree : Agree request s.state request' t.state (fun a s b t => a = b ∧ alike s t ∧ good s t)
      (fun f s g t => f = g ∧ alike s t))
    (same : ∀ answer, (entry answer).effect? = (entry' answer).effect?)
    (before : s.effects = t.effects) :
    Agree (record entry request) s (record entry' request') t
      (fun a s' b t' => a = b ∧ (alike s'.state t'.state ∧ s'.effects = t'.effects) ∧
        good s'.state t'.state)
      (fun f s' g t' => f = g ∧ alike s'.state t'.state ∧ s'.effects = t'.effects) := by
  have effects (answer : Except Fault α) (state state' : σ) :
      Recorded.effects ⟨state, s.asked ++ [entry answer]⟩ =
        Recorded.effects ⟨state', t.asked ++ [entry' answer]⟩ := by
    unfold Recorded.effects at before ⊢
    simp only [List.filterMap_append, before, List.filterMap_cons, same]
  unfold Agree
  simp only [ends_record]
  refine Agree.imp agree ?_ ?_
  · intro a s' _ t' ended
    obtain ⟨rfl, alike, goes⟩ := ended
    exact ⟨rfl, ⟨alike, effects _ _ _⟩, goes⟩
  · intro f s' _ t' failed
    obtain ⟨rfl, alike⟩ := failed
    exact ⟨rfl, alike, effects _ _ _⟩

def ByText.recorded (steady : conn.ByText) : conn.recorded.ByText where
  Alike := fun s t => steady.Alike s.state t.state ∧ s.effects = t.effects
  Prepared := fun s h sql n => steady.Prepared s.state h sql n
  Level := fun s h t k => steady.Level s.state h t.state k ∧ h.sql = k.sql
  refusal := steady.refusal
  alike := ⟨fun s => ⟨steady.alike.refl _, rfl⟩,
    fun alike => ⟨steady.alike.symm alike.1, alike.2.symm⟩,
    fun first second => ⟨steady.alike.trans first.1 second.1, first.2.trans second.2⟩⟩
  sql_eq := steady.sql_eq
  keeps := steady.keeps.recorded
  prepare sql n s := by
    simp only [Connection.recorded, ends_record]
    apply (steady.prepare sql n s.state).imp
    · intro h t prepared
      refine ⟨prepared.1, ⟨prepared.2.1, ?_⟩, prepared.2.2⟩
      simp [Recorded.effects, Asked.effect?]
    · intro f t refused
      refine ⟨refused.1, refused.2, ?_⟩
      simp [Recorded.effects, Asked.effect?]
  execute values alike prepared prepared' := by
    have same := (steady.sql_eq prepared).trans (steady.sql_eq prepared').symm
    apply (agree_record (steady.execute values alike.1 prepared prepared') _ alike.2).imp
    · exact fun _ _ _ _ done => ⟨done.1, done.2.1, done.2.2, same⟩
    · exact fun _ _ _ _ failed => failed
    · intro answer
      simp only [Asked.effect?, same]
  describe alike level := by
    simp only [Connection.recorded]
    apply (agree_record (steady.describe alike.1 level.1) _ alike.2).imp
    · exact fun _ _ _ _ done => ⟨done.1, done.2.1, done.2.2, level.2⟩
    · exact fun _ _ _ _ failed => failed
    · intro answer
      simp only [Asked.effect?, level.2]
  fetch alike level := by
    simp only [Connection.recorded]
    apply (agree_record (steady.fetch alike.1 level.1) _ alike.2).imp
    · exact fun _ _ _ _ done => ⟨done.1, done.2.1, done.2.2, level.2⟩
    · exact fun _ _ _ _ failed => failed
    · intro answer
      simp only [Asked.effect?, level.2]
  commit := by
    intro s t alike
    have agree : Agree conn.commit s.state conn.commit t.state
        (fun a s b t => a = b ∧ steady.Alike s t ∧ True)
        (fun f s g t => f = g ∧ steady.Alike s t) := by
      simpa using steady.commit alike.1
    simp only [Connection.recorded]
    apply (agree_record agree (fun _ => rfl) alike.2).imp
    · exact fun _ _ _ _ done => ⟨trivial, done.2.1⟩
    · exact fun _ _ _ _ failed => failed
  rollback := by
    intro s t alike
    have agree : Agree conn.rollback s.state conn.rollback t.state
        (fun a s b t => a = b ∧ steady.Alike s t ∧ True)
        (fun f s g t => f = g ∧ steady.Alike s t) := by
      simpa using steady.rollback alike.1
    simp only [Connection.recorded]
    apply (agree_record agree (fun _ => rfl) alike.2).imp
    · exact fun _ _ _ _ done => ⟨trivial, done.2.1⟩
    · exact fun _ _ _ _ failed => failed

end Connection

namespace Script

open QueryBook.Action Connection

structure Played where
  cursors : List ScriptedCursor
  events : List Event

namespace Played

variable {α : Type}

def state (script : Script) (s : Played) : State :=
  ⟨script, s.cursors, s.events⟩

def play (script : Script) (request : Request State α) : Request Played α := fun s =>
  match request (s.state script) with
  | .ok a t => .ok a ⟨t.cursors, t.events⟩
  | .error f t => .error f ⟨t.cursors, t.events⟩

theorem rowsLeft_play {script : Script} {style : MarkerStyle} {h : Handle} {s t : Played}
    {row : Fields}
    (fetched : play script ((Script.connection style).fetch h) s = .ok (some row) t) :
    State.rowsLeft h.id (t.state script) < State.rowsLeft h.id (s.state script) := by
  unfold play at fetched
  split at fetched
  next found =>
    cases fetched
    have less := (Script.connection style).rowsLeft_fetch found
    exact less
  next => cases fetched

theorem ends_play {script : Script} {request : Request State α} {s : Played}
    {good : α → Played → Prop} {bad : Fault → Played → Prop} :
    Ends (play script request) s good bad ↔
      Ends request (s.state script) (fun a t => good a ⟨t.cursors, t.events⟩)
        (fun f t => bad f ⟨t.cursors, t.events⟩) := by
  simp only [Ends, play]
  cases request (s.state script) <;> rfl

end Played

def playing (script : Script) (style : MarkerStyle) : Connection Played where
  style
  prepare := fun sql n => Played.play script ((connection style).prepare sql n)
  execute := fun h values => Played.play script ((connection style).execute h values)
  describe := fun h => Played.play script ((connection style).describe h)
  fetch := fun h => Played.play script ((connection style).fetch h)
  commit := Played.play script (connection style).commit
  rollback := Played.play script (connection style).rollback
  close := Played.play script (connection style).close
  rowsLeft := fun h s => State.rowsLeft h.id (s.state script)
  rowsLeft_fetch := Played.rowsLeft_play

namespace State

variable {s : State}

@[simp] theorem ends_raise {fault : Option Fault} {good : Unit → State → Prop}
    {bad : Fault → State → Prop} :
    Ends (raise fault) s good bad ↔
      match fault with
      | some f => bad f s
      | none => good () s := by
  cases fault <;> rfl

theorem ends_fetchAs {α : Type} {form : List String × List Value → α} {c : Nat}
    {good : Option α → State → Prop} {bad : Fault → State → Prop} :
    Ends (fetchAs form c) s good bad ↔
      match s.cursors[c]? with
      | some ⟨labels, .ok cells :: rest⟩ => good (some (form (labels, cells)))
        { s with cursors := s.cursors.set c ⟨labels, rest⟩, events := s.events ++ [.fetch] }
      | some ⟨labels, .error f :: rest⟩ => bad f
        { s with cursors := s.cursors.set c ⟨labels, rest⟩, events := s.events ++ [.fetch] }
      | _ => good none { s with events := s.events ++ [.fetch] } := by
  simp only [Ends, fetchAs, nextRow]
  cases s.cursors[c]? with
  | none => rfl
  | some cursor =>
    obtain ⟨labels, rows⟩ := cursor
    rcases rows with _ | ⟨_ | _, rest⟩ <;> rfl

@[simp] theorem ends_meet {event : Event} {fault : Script → Option Fault}
    {good : Unit → State → Prop} {bad : Fault → State → Prop} :
    Ends (meet event fault) s good bad ↔
      match fault s.script with
      | some f => bad f { s with events := s.events ++ [event] }
      | none => good () { s with events := s.events ++ [event] } := by
  simp only [meet, record, ends_bind, ends_modify, ends_get, ends_raise]

end State

def Played.Holds (s : Played) (h : Handle) (sql : String) : Prop :=
  h.sql = sql ∧ h.id < s.cursors.length

theorem Played.Holds.of_length {s t : Played} (longer : s.cursors.length ≤ t.cursors.length)
    {h : Handle} {sql : String} (holds : s.Holds h sql) : t.Holds h sql :=
  ⟨holds.1, Nat.lt_of_lt_of_le holds.2 longer⟩

theorem longer_of_requests (script : Script) (style : MarkerStyle) :
    (playing script style).MovesBy fun s t => s.cursors.length ≤ t.cursors.length where
  refl := fun _ => Nat.le_refl _
  trans := Nat.le_trans
  prepare sql n s := by
    simp only [playing, Played.ends_play, connection, State.prepare, ends_bind, State.ends_meet,
      Played.state]
    cases script.prepareFaults sql with
    | some f => simp
    | none => simp [Ends, State.newCursor, pure, EStateM.pure]
  execute h values s := by
    simp only [playing, Played.ends_play, connection, State.execute, ends_bind, State.ends_meet,
      ends_get, Played.state]
    cases script.executeFaults h.sql with
    | some f => simp
    | none => cases script.results.get? h.sql <;> simp
  describe h s := by
    simp only [playing, Played.ends_play, connection, State.describe, ends_bind, ends_get,
      State.ends_raise, Played.state]
    cases script.describeFaults h.sql <;> simp [Ends, State.labels]
  fetch h s := by
    simp only [playing, Played.ends_play, connection, State.ends_fetchAs, Played.state]
    split <;> simp
  commit s := by
    simp only [playing, Played.ends_play, connection, State.ends_meet, Played.state]
    cases script.commitFault <;> simp
  rollback s := by
    simp only [playing, Played.ends_play, connection, State.ends_meet, Played.state]
    cases script.rollbackFault <;> simp

def byText (script : Script) (style : MarkerStyle) : (playing script style).ByText where
  Alike := fun _ _ => True
  Prepared := fun s h sql _ => s.Holds h sql
  Level := fun s h t k => h.sql = k.sql ∧
    ∃ cursor, s.cursors[h.id]? = some cursor ∧ t.cursors[k.id]? = some cursor
  refusal := fun sql _ => script.prepareFaults sql
  alike := ⟨fun _ => trivial, fun _ => trivial, fun _ _ => trivial⟩
  sql_eq := And.left
  keeps := (longer_of_requests script style).imp
    (fun longer h sql n holds => holds.of_length longer) (fun _ _ _ _ holds => holds)
    fun first second h sql n holds => second h sql n (first h sql n holds)
  prepare sql n s := by
    simp only [playing, Played.ends_play, connection, State.prepare, ends_bind, State.ends_meet,
      Played.state]
    cases script.prepareFaults sql with
    | some f => simp
    | none =>
      simp [Ends, State.newCursor, pure, EStateM.pure, Played.Holds]
  execute := by
    intro s t h k sql n values _ ended ended'
    obtain ⟨rfl, inside⟩ := ended
    obtain ⟨same, inside'⟩ := ended'
    unfold Agree
    simp only [playing, Played.ends_play, connection, State.execute, ends_bind, State.ends_meet,
      ends_get, Played.state, same]
    cases script.executeFaults h.sql with
    | some f => simp
    | none => cases script.results.get? h.sql <;> simp [inside, inside']
  describe := by
    intro s t h k _ ended
    obtain ⟨same, cursor, held, held'⟩ := ended
    unfold Agree
    simp only [playing, Played.ends_play, connection, State.describe, ends_bind, ends_get,
      State.ends_raise, Played.state, same]
    cases script.describeFaults k.sql <;> simp [Ends, State.labels, held, held']
  fetch := by
    intro s t h k _ ended
    obtain ⟨same, cursor, held, held'⟩ := ended
    obtain ⟨inside, -⟩ := List.getElem?_eq_some_iff.mp held
    obtain ⟨inside', -⟩ := List.getElem?_eq_some_iff.mp held'
    unfold Agree
    simp only [playing, Played.ends_play, connection, State.ends_fetchAs, Played.state, held, held']
    obtain ⟨labels, rows⟩ := cursor
    rcases rows with _ | ⟨_ | _, rest⟩ <;> simp [same, inside, inside']
  commit := by
    intro s t _
    unfold Agree
    simp only [playing, Played.ends_play, connection, State.ends_meet, Played.state]
    cases script.commitFault <;> simp
  rollback := by
    intro s t _
    unfold Agree
    simp only [playing, Played.ends_play, connection, State.ends_meet, Played.state]
    cases script.rollbackFault <;> simp

end Script

end QueryBook
