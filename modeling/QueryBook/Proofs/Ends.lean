import QueryBook.Action
import Mathlib.Data.List.Forall2

set_option autoImplicit false

namespace QueryBook.Action

variable {ε σ τ α β : Type}

def Ends (act : EStateM ε σ α) (s : σ) (good : α → σ → Prop) (bad : ε → σ → Prop) : Prop :=
  match act s with
  | .ok a t => good a t
  | .error e t => bad e t

theorem get_bind_apply (next : σ → EStateM ε σ α) (s : σ) :
    (get >>= next) s = next s s := rfl

section Rules

variable {s : σ} {good : α → σ → Prop} {bad : ε → σ → Prop}

theorem Ends.imp {act : EStateM ε σ α} {good' : α → σ → Prop} {bad' : ε → σ → Prop}
    (ends : Ends act s good bad) (answers : ∀ a t, good a t → good' a t)
    (fails : ∀ e t, bad e t → bad' e t) : Ends act s good' bad' := by
  unfold Ends at *
  cases h : act s with
  | ok a t => rw [h] at ends; exact answers a t ends
  | error e t => rw [h] at ends; exact fails e t ends

abbrev EndsIn (act : EStateM ε σ α) (s : σ) (left : σ → Prop) : Prop :=
  Ends act s (fun _ t => left t) (fun _ t => left t)

theorem Ends.mono {act : EStateM ε σ α} {left later : σ → Prop} (ends : EndsIn act s left)
    (implies : ∀ t, left t → later t) : EndsIn act s later :=
  ends.imp (fun _ => implies) fun _ => implies

theorem Ends.and {act : EStateM ε σ α} {good' : α → σ → Prop} {bad' : ε → σ → Prop}
    (ends : Ends act s good bad) (others : Ends act s good' bad') :
    Ends act s (fun a t => good a t ∧ good' a t) (fun e t => bad e t ∧ bad' e t) := by
  unfold Ends at *
  cases h : act s with
  | ok a t => rw [h] at ends others; exact ⟨ends, others⟩
  | error e t => rw [h] at ends others; exact ⟨ends, others⟩

theorem Ends.of_ok {act : EStateM ε σ α} {a : α} {t : σ} (ends : Ends act s good bad)
    (answered : act s = .ok a t) : good a t := by
  unfold Ends at ends
  rwa [answered] at ends

theorem Ends.of_error {act : EStateM ε σ α} {e : ε} {t : σ} (ends : Ends act s good bad)
    (failed : act s = .error e t) : bad e t := by
  unfold Ends at ends
  rwa [failed] at ends

theorem ends_of_ok {act : EStateM ε σ α} {a : α} {t : σ} (answered : act s = .ok a t) :
    Ends act s good bad ↔ good a t := by
  rw [Ends, answered]

theorem ends_of_error {act : EStateM ε σ α} {e : ε} {t : σ} (failed : act s = .error e t) :
    Ends act s good bad ↔ bad e t := by
  rw [Ends, failed]

theorem Ends.exists_ok {act : EStateM ε σ α} {a : α}
    (ends : Ends act s (fun b _ => b = a) (fun _ _ => False)) : ∃ t, act s = .ok a t := by
  cases acted : act s with
  | ok b t => exact ⟨t, by rw [ends.of_ok acted]⟩
  | error e t => exact (ends.of_error acted).elim

theorem Ends.exists_error {act : EStateM ε σ α} {e : ε}
    (ends : Ends act s (fun _ _ => False) (fun e' _ => e' = e)) : ∃ t, act s = .error e t := by
  cases acted : act s with
  | ok b t => exact (ends.of_ok acted).elim
  | error e' t => exact ⟨t, by rw [ends.of_error acted]⟩

theorem ends_self (act : EStateM ε σ α) (s : σ) :
    Ends act s (fun a t => act s = .ok a t) (fun e t => act s = .error e t) := by
  unfold Ends
  cases act s <;> rfl

@[simp] theorem ends_pure (a : α) : Ends (pure a) s good bad ↔ good a s := Iff.rfl

@[simp] theorem ends_throw (e : ε) : Ends (throw e) s good bad ↔ bad e s := Iff.rfl

@[simp] theorem ends_bind (act : EStateM ε σ β) (next : β → EStateM ε σ α) :
    Ends (act >>= next) s good bad ↔ Ends act s (fun b t => Ends (next b) t good bad) bad := by
  simp only [Ends, bind, EStateM.bind]
  cases act s <;> rfl

@[simp] theorem ends_get {good : σ → σ → Prop} :
    Ends (get : EStateM ε σ σ) s good bad ↔ good s s := Iff.rfl

@[simp] theorem ends_modify {good : Unit → σ → Prop} (change : σ → σ) :
    Ends (modify change : EStateM ε σ Unit) s good bad ↔ good () (change s) := Iff.rfl

@[simp] theorem ends_map (change : β → α) (act : EStateM ε σ β) :
    Ends (change <$> act) s good bad ↔ Ends act s (fun b t => good (change b) t) bad := by
  simp only [Ends, Functor.map, EStateM.map]
  cases act s <;> rfl

@[simp] theorem ends_discard {good : Unit → σ → Prop} (act : EStateM ε σ β) :
    Ends (discard act) s good bad ↔ Ends act s (fun _ t => good () t) bad := by
  simp only [Ends, Functor.discard, Functor.mapConst, EStateM.map, Function.comp]
  cases act s <;> rfl

end Rules

section Actions

variable {s : σ} {good : α → σ → Prop} {bad : Error → σ → Prop}

@[simp] theorem ends_ofExcept (result : Except Error α) :
    Ends (ofExcept result) s good bad ↔
      match result with
      | .ok a => good a s
      | .error e => bad e s := by
  cases result <;> rfl

@[simp] theorem ends_focus (part : σ → τ) (replace : σ → τ → σ) (act : Action τ α) :
    Ends (focus part replace act) s good bad ↔
      Ends act (part s) (fun a t => good a (replace s t)) (fun e t => bad e (replace s t)) := by
  simp only [Ends, focus]
  cases act (part s) <;> rfl

@[simp] theorem ends_request (fault : Fault → Error) (act : Request σ α) :
    Ends (request fault act) s good bad ↔ Ends act s good (fun f t => bad (fault f) t) := by
  simp only [Ends, request]
  cases act s <;> rfl

@[simp] theorem ends_mapError (change : Error → Error) (act : Action σ α) :
    Ends (mapError change act) s good bad ↔ Ends act s good (fun e t => bad (change e) t) := by
  simp only [Ends, mapError]
  cases act s <;> rfl

@[simp] theorem ends_rescue (act : Action σ α) (handler : Error → Action σ α) :
    Ends (rescue act handler) s good bad ↔
      Ends act s good (fun e t => Ends (handler e) t good bad) := by
  simp only [Ends, rescue]
  cases act s <;> rfl

@[simp] theorem ends_andThen (act : Action σ α) (change : σ → σ) :
    Ends (andThen act change) s good bad ↔
      Ends act s (fun a t => good a (change t)) (fun e t => bad e (change t)) := by
  simp only [Ends, andThen]
  cases act s <;> rfl

@[simp] theorem ends_endingWith (act : Action σ α) (last : Action σ Unit) :
    Ends (endingWith act last) s good bad ↔
      Ends act s (fun a t => Ends last t (fun _ u => good a u) bad)
        (fun e t => Ends last t (fun _ u => bad e u) bad) := by
  simp only [endingWith, ends_bind, ends_rescue, ends_throw, ends_pure]

theorem outcome_eq_iff {act : Action σ α} {result : Except Error α} {t : σ} :
    act.outcome s = (result, t) ↔
      Ends act s (fun a u => result = .ok a ∧ u = t) (fun e u => result = .error e ∧ u = t) := by
  unfold Action.outcome Ends
  cases act s <;> simp [eq_comm]

theorem eq_error_of_outcome {act : Action σ α} {e : Error} {t : σ}
    (failed : act.outcome s = (.error e, t)) : act s = .error e t := by
  unfold Action.outcome at failed
  cases acted : act s <;> simp_all

theorem outcome_of_error {act : Action σ α} {e : Error} {t : σ} (failed : act s = .error e t) :
    act.outcome s = (.error e, t) := by
  rw [Action.outcome, failed]

theorem Ends.outcome {act : Action σ α} {left : σ → Prop} (ends : EndsIn act s left) :
    left (act.outcome s).2 := by
  unfold Action.outcome
  cases acted : act s with
  | ok a t => exact ends.of_ok acted
  | error e t => exact ends.of_error acted

end Actions

-- Where a computation goes when it answers, and where it stops when it fails. What follows starts
-- from where the first part has gone to.
structure Passage (goes : σ → σ → Prop) (stops : σ → ε → σ → Prop) : Prop where
  refl : ∀ s, goes s s
  trans : ∀ {s t u}, goes s t → goes t u → goes s u
  after : ∀ {s t e u}, goes s t → stops t e u → stops s e u

namespace Passage

variable {goes : σ → σ → Prop} {stops : σ → ε → σ → Prop} (passage : Passage goes stops)

include passage

theorem bind {act : EStateM ε σ β} {next : β → EStateM ε σ α} {s : σ}
    (first : Ends act s (fun _ => goes s) (stops s))
    (rest : ∀ b t, Ends (next b) t (fun _ => goes t) (stops t)) :
    Ends (act >>= next) s (fun _ => goes s) (stops s) := by
  rw [ends_bind]
  apply first.imp
  · exact fun b t went =>
      (rest b t).imp (fun _ _ => passage.trans went) fun _ _ => passage.after went
  · exact fun _ _ stopped => stopped

theorem mapM {act : α → EStateM ε σ β} (xs : List α)
    (each : ∀ x ∈ xs, ∀ t, Ends (act x) t (fun _ => goes t) (stops t)) (s : σ) :
    Ends (xs.mapM act) s (fun _ => goes s) (stops s) := by
  induction xs generalizing s with
  | nil => exact passage.refl s
  | cons x xs ih =>
    rw [List.mapM_cons]
    have rest := ih fun other member => each other (List.mem_cons_of_mem _ member)
    refine passage.bind (each x (by simp) s) fun b t => ?_
    exact passage.bind (rest t) fun bs u => passage.refl u

end Passage

theorem ends_mapM {act : α → EStateM ε σ β} {moves : σ → σ → Prop} {known : σ → α → β → Prop}
    {bad : ε → σ → Prop} (refl : ∀ s, moves s s)
    (trans : ∀ {s t u}, moves s t → moves t u → moves s u)
    (stable : ∀ {s t a b}, known s a b → moves s t → known t a b) (xs : List α) (s : σ)
    (each : ∀ x ∈ xs, ∀ t, moves s t →
      Ends (act x) t (fun b u => moves t u ∧ known u x b) (fun e u => moves t u ∧ bad e u)) :
    Ends (xs.mapM act) s (fun bs t => moves s t ∧ List.Forall₂ (known t) xs bs)
      (fun e t => moves s t ∧ bad e t) := by
  induction xs generalizing s with
  | nil => exact ⟨refl s, .nil⟩
  | cons x xs ih =>
    rw [List.mapM_cons]
    simp only [ends_bind, ends_pure]
    apply (each x (by simp) s (refl s)).imp
    · intro b t ended
      obtain ⟨moved, knows⟩ := ended
      have rest := ih t fun y member u later =>
        each y (List.mem_cons_of_mem _ member) u (trans moved later)
      apply rest.imp
      · intro bs u ended
        obtain ⟨later, others⟩ := ended
        exact ⟨trans moved later, .cons (stable knows later) others⟩
      · intro e u failed
        obtain ⟨later, failed⟩ := failed
        exact ⟨trans moved later, failed⟩
    · exact fun _ _ failed => failed

end QueryBook.Action
