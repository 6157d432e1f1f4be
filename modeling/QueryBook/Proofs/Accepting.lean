import QueryBook.Proofs.Flattening
import QueryBook.Proofs.Replay
import QueryBook.Proofs.Running

set_option autoImplicit false

namespace QueryBook

open QueryBook.Action

namespace Connection.ByText

variable {σ : Type} {conn : Connection σ} {s t u : σ}

def Keeps (steady : conn.ByText) (s t : σ) : Prop :=
  ∀ h sql n, steady.Prepared s h sql n → steady.Prepared t h sql n

def Unrefused (steady : conn.ByText) (d : Statement) : Prop :=
  d.marked.needsSubstitution = false →
    steady.refusal d.sql d.marked.bindNames.length = none

variable {steady : conn.ByText} {style : Option MarkerStyle} {placement : Placement}
  {block : String}

theorem ends_create (steady : conn.ByText) (style : Option MarkerStyle) (placement : Placement)
    (block : String) (s : σ) :
    Ends (Statement.create conn style placement block) s
      (fun st t => (steady.Alike s t ∧ steady.Keeps s t) ∧
        steady.Made (style.getD conn.style) placement t block st ∧
        ∃ d, Statement.draft (style.getD conn.style) placement block = .ok d ∧
          steady.Unrefused d ∧ st.kind = d.kind ∧ st.marked = d.marked)
      (fun _ t => (steady.Alike s t ∧ steady.Keeps s t) ∧
        ∀ d, Statement.draft (style.getD conn.style) placement block = .ok d →
          ¬ steady.Unrefused d) := by
  have stays : steady.Alike s s ∧ steady.Keeps s s :=
    ⟨steady.alike.refl s, steady.keeps.refl s⟩
  rw [Statement.create_eq]
  simp only [ends_bind, ends_ofExcept]
  cases drafted : Statement.draft (style.getD conn.style) placement block with
  | error e => exact ⟨stays, fun _ other => by cases other⟩
  | ok d =>
    simp only
    split
    next directs =>
      refine ⟨stays, .late drafted directs, d, rfl, ?_, rfl, rfl⟩
      intro plain
      rw [directs] at plain
      cases plain
    next plain =>
      have plain : d.marked.needsSubstitution = false := by simpa using plain
      simp only [Statement.prepareText, ends_bind, ends_request, ends_pure]
      apply ((steady.prepare _ _ s).and (steady.keeps.prepare _ _ s)).imp
      · intro h t ended
        obtain ⟨⟨accepted, alike, prepared⟩, keeps⟩ := ended
        exact ⟨⟨alike, keeps⟩, .early drafted plain prepared, d, rfl, fun _ => accepted, rfl, rfl⟩
      · intro f t failed
        obtain ⟨⟨refused, alike⟩, keeps⟩ := failed
        refine ⟨⟨alike, keeps⟩, ?_⟩
        intro _ drafted' unrefused
        cases drafted'
        rw [unrefused plain] at refused
        cases refused

end Connection.ByText

namespace Compiler

variable {σ : Type} {c : Compiler σ} {block : String}

def Accepts (c : Compiler σ) (steady : c.connection.ByText) (block : String) : Prop :=
  ∃ d, Statement.draft (c.style.getD c.connection.style) c.placement block = .ok d ∧
    steady.Unrefused d ∧ c.LabelsPass d

def Makes (c : Compiler σ) (steady : c.connection.ByText) (s : σ) (block : String)
    (st : Statement) : Prop :=
  steady.Made (c.style.getD c.connection.style) c.placement s block st ∧ c.Accepts steady block

variable {steady : c.connection.ByText}

theorem ends_create_makes (c : Compiler σ) (steady : c.connection.ByText) (block : String) (s : σ) :
    Ends (Statement.create c.connection c.style c.placement block) s
      (fun st t => (steady.Alike s t ∧ steady.Keeps s t) ∧
        (c.LabelsPass st → c.Makes steady t block st))
      (fun _ t => steady.Alike s t ∧ steady.Keeps s t) := by
  apply (steady.ends_create c.style c.placement block s).imp
  · intro st t ended
    obtain ⟨moved, made, d, drafted, unrefused, kind, marked⟩ := ended
    refine ⟨moved, fun passes => ⟨made, d, drafted, unrefused, ?_⟩⟩
    simpa only [LabelsPass, Statement.sql, kind, marked] using passes
  · exact fun _ _ failed => failed.1

def quiet (c : Compiler σ) (steady : c.connection.ByText) : c.Making where
  Known := c.Makes steady
  Moves := fun s t => steady.Alike s t ∧ steady.Keeps s t
  refl := fun s => ⟨steady.alike.refl s, steady.keeps.refl s⟩
  trans := fun first second =>
    ⟨steady.alike.trans first.1 second.1, steady.keeps.trans first.2 second.2⟩
  known_of_moves := fun known moved => ⟨known.1.of_keeps moved.2, known.2⟩
  makes := c.ends_create_makes steady

def working (c : Compiler σ) (steady : c.connection.ByText) : c.Making where
  Known := c.Makes steady
  Moves := steady.Keeps
  refl := steady.keeps.refl
  trans := steady.keeps.trans
  known_of_moves := fun known keeps => ⟨known.1.of_keeps keeps, known.2⟩
  makes block s := (c.ends_create_makes steady block s).imp
    (fun _ _ made => ⟨made.1.2, made.2⟩) fun _ _ failed => failed.2

theorem ends_makeStatement_of_accepts (tag : String) (desk : Desk σ)
    (accepts : c.Accepts steady block) :
    Ends (c.makeStatement tag block) desk (fun _ _ => True) (fun _ _ => False) := by
  obtain ⟨d, drafted, unrefused, passes⟩ := accepts
  simp only [makeStatement, ends_bind, Desk.ends_onConn, ends_pure]
  apply (steady.ends_create c.style c.placement block desk.conn).imp
  · intro st conn ended
    obtain ⟨-, -, d', drafted', -, kind, marked⟩ := ended
    rw [drafted, Except.ok.injEq] at drafted'
    subst drafted'
    have passes' : c.LabelsPass st := by
      simpa only [LabelsPass, Statement.sql, kind, marked] using passes
    exact ends_checkLabels (fun _ _ => trivial) fun _ _ _ fails => fails passes'
  · exact fun _ _ failed => failed.2 d drafted unrefused

theorem foresees_of_accepts (c : Compiler σ) (steady : c.connection.ByText) :
    c.Foresees (c.library.Sound (c.Accepts steady)) fun _ => False :=
  foresees_of_sound (fun tag _ desk => ends_makeStatement_of_accepts tag desk) fun _ no => no

theorem sound_of_compiles (steady : c.connection.ByText) {n : Nat} {tag : String} {desk : Desk σ}
    (within : c.library.Within n tag)
    (compiles : ∀ inner, Relation.ReflTransGen c.library.Includes tag inner →
      ∃ chain t, c.compile inner desk = .ok chain t) : c.library.Sound (c.Accepts steady) tag := by
  induction n generalizing tag with
  | zero => exact within.elim
  | succ n ih =>
    obtain ⟨chain, t, compiled⟩ := compiles tag .refl
    have ends := ends_compile (c.quiet steady) c.foresees_any tag trivial desk
    have made := (ends.of_ok compiled).2.2
    apply Library.Sound.of_chainOf made fun block st known => known.2
    intro inner member
    have includes := made.mem_includes_iff.mp member
    exact ih (within inner includes) fun deeper reaches => compiles deeper (.head includes reaches)

end Compiler

end QueryBook
