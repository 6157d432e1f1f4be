import QueryBook.Proofs.ByText
import QueryBook.Proofs.Pairing

set_option autoImplicit false

namespace QueryBook

open QueryBook.Action

namespace Connection.ByText

variable {σ : Type} {conn : Connection σ}

inductive Made (steady : conn.ByText) (style : MarkerStyle) (placement : Placement) (s : σ)
    (block : String) : Statement → Prop where
  | late {d : Statement} (drafted : Statement.draft style placement block = .ok d)
      (directs : d.marked.needsSubstitution = true) : Made steady style placement s block d
  | early {d : Statement} {h : Handle} (drafted : Statement.draft style placement block = .ok d)
      (plain : d.marked.needsSubstitution = false)
      (prepared : steady.Prepared s h d.sql d.marked.bindNames.length) :
      Made steady style placement s block { d with handle := some h }

structure Abreast (steady : conn.ByText) (stage other : Stage σ) : Prop where
  alike : steady.Alike stage.conn other.conn
  data : stage.data = other.data

variable {steady : conn.ByText} {style : MarkerStyle} {placement : Placement} {block : String}

theorem Made.of_keeps {s t : σ} {st : Statement} (made : steady.Made style placement s block st)
    (keeps : ∀ h sql n, steady.Prepared s h sql n → steady.Prepared t h sql n) :
    steady.Made style placement t block st := by
  cases made with
  | late drafted directs => exact .late drafted directs
  | early drafted plain prepared => exact .early drafted plain (keeps _ _ _ prepared)

section Requests

variable {s t : σ} {data : Fields} {st st' : Statement}

theorem agree_prepare (steady : conn.ByText) (sql : String) (n : Nat) (alike : steady.Alike s t) :
    Agree (conn.prepare sql n) s (conn.prepare sql n) t
      (fun h s k t => steady.Alike s t ∧ steady.Prepared s h sql n ∧ steady.Prepared t k sql n)
      (fun f s g t => f = g ∧ steady.Alike s t) := by
  have meets {s' t' : σ} (moved : steady.Alike s s') (moved' : steady.Alike t t') :
      steady.Alike s' t' :=
    steady.alike.trans (steady.alike.symm moved) (steady.alike.trans alike moved')
  apply (steady.prepare sql n s).imp
  · intro h s' ended
    obtain ⟨accepted, moved, prepared⟩ := ended
    apply (steady.prepare sql n t).imp
    · exact fun k t' other => ⟨meets moved other.2.1, prepared, other.2.2⟩
    · intro g t' other
      rw [accepted] at other
      cases other.1
  · intro f s' failed
    obtain ⟨refused, moved⟩ := failed
    apply (steady.prepare sql n t).imp
    · intro k t' other
      rw [refused] at other
      cases other.1
    · intro g t' other
      rw [refused, Option.some.injEq] at other
      exact ⟨other.1, meets moved other.2⟩

theorem agree_ready (data : Fields)
    (made : steady.Made style placement s block st)
    (made' : steady.Made style placement t block st') (alike : steady.Alike s t) :
    Agree (st.ready conn data) s (st'.ready conn data) t
      (fun a s b t => a.1 = b.1 ∧
        (∃ n, steady.Prepared s a.2 a.1 n ∧ steady.Prepared t b.2 a.1 n) ∧ steady.Alike s t)
      (fun e s e' t => e = e' ∧ steady.Alike s t) := by
  cases made with
  | late drafted directs =>
    cases made' with
    | early drafted' plain =>
      rw [drafted, Except.ok.injEq] at drafted'
      rw [drafted', plain] at directs
      cases directs
    | late drafted' =>
      rw [drafted, Except.ok.injEq] at drafted'
      subst drafted'
      simp only [Statement.ready, Statement.handle_of_draft drafted]
      apply agree_ofExcept_bind
      · intro sql filled
        have agree := agree_prepare steady sql st.marked.bindNames.length alike
        apply (agree_request (agree.imp (fun _ _ _ _ done => done) ?_)).bind
        · intro h s k t done
          exact ⟨rfl, ⟨_, done.2⟩, done.1⟩
        · exact fun _ _ _ _ failed => ⟨congrArg _ failed.1, failed.2⟩
      · exact fun _ _ => ⟨rfl, alike⟩
  | early drafted plain prepared =>
    cases made' with
    | late drafted' directs =>
      rw [drafted, Except.ok.injEq] at drafted'
      rw [← drafted', plain] at directs
      cases directs
    | early drafted' _ prepared' =>
      rw [drafted, Except.ok.injEq] at drafted'
      subst drafted'
      exact ⟨rfl, ⟨_, prepared, prepared'⟩, alike⟩

theorem Made.same (made : steady.Made style placement s block st)
    (made' : steady.Made style placement t block st') :
    st.kind = st'.kind ∧ st.marked = st'.marked ∧ st.placement = st'.placement := by
  cases made <;> cases made' <;> simp_all

def pairing (made : steady.Made style placement s block st)
    (made' : steady.Made style placement t block st') (alike : steady.Alike s t) (data : Fields) :
    Pairing conn st s conn st' t data where
  Ready sql h k u v :=
    (∃ n, steady.Prepared u h sql n ∧ steady.Prepared v k sql n) ∧ steady.Alike u v
  Level h k _ u v := steady.Alike u v ∧ steady.Level u h v k
  Left _ u v := steady.Alike u v
  ready := agree_ready data made made' alike
  valueless ready _ := ready.2
  execute := by
    rintro sql h k u v values ⟨⟨n, prepared, prepared'⟩, alike⟩ -
    exact (steady.execute values alike prepared prepared').imp (fun _ _ _ _ done => done)
      fun _ _ _ _ failed => ⟨failed.1, fun _ => failed.2⟩
  reads h k answer :=
    { left := fun level _ => level.1
      describe := fun level => (steady.describe level.1 level.2).imp (fun _ _ _ _ done => done)
        fun _ _ _ _ failed => ⟨failed.1, fun _ => failed.2⟩
      fetch := fun level => (steady.fetch level.1 level.2).imp (fun _ _ _ _ done => done)
        fun _ _ _ _ failed => ⟨failed.1, fun _ => failed.2⟩ }

end Requests

theorem agree_execute {stage other : Stage σ} {st st' : Statement}
    (abreast : steady.Abreast stage other)
    (made : steady.Made style placement stage.conn block st)
    (made' : steady.Made style placement other.conn block st') :
    Agree (st.execute conn) stage (st'.execute conn) other
      (fun a s b t => a = b ∧ steady.Abreast s t)
      (fun e s e' t => e = e' ∧ steady.Abreast s t) := by
  obtain ⟨kind, marked, placed⟩ := made.same made'
  apply ((pairing made made' abreast.alike stage.data).agree_execute kind marked placed
    abreast.data).imp
  · rintro n s m t ⟨same, data, -, _, _, _, -, alike, -⟩
    exact ⟨same, alike, data⟩
  · rintro e s e' t ⟨same, -, data, -, alike⟩
    exact ⟨same, alike, data⟩

end Connection.ByText

end QueryBook
