import QueryBook.Proofs.Ends

set_option autoImplicit false

namespace QueryBook

namespace Action

variable {ε σ τ α β γ δ : Type}

def Agree (act : EStateM ε σ α) (s : σ) (other : EStateM ε τ β) (t : τ)
    (good : α → σ → β → τ → Prop) (bad : ε → σ → ε → τ → Prop) : Prop :=
  Ends act s (fun a s' => Ends other t (fun b t' => good a s' b t') fun _ _ => False)
    (fun e s' => Ends other t (fun _ _ => False) fun e' t' => bad e s' e' t')

variable {s : σ} {t : τ} {good : α → σ → β → τ → Prop} {bad : ε → σ → ε → τ → Prop}

theorem agree_iff {act : EStateM ε σ α} {other : EStateM ε τ β} :
    Agree act s other t good bad ↔
      match act s, other t with
      | .ok a s, .ok b t => good a s b t
      | .error e s, .error e' t => bad e s e' t
      | _, _ => False := by
  unfold Agree Ends
  cases act s <;> cases other t <;> rfl

theorem Agree.imp {act : EStateM ε σ α} {other : EStateM ε τ β} {good' : α → σ → β → τ → Prop}
    {bad' : ε → σ → ε → τ → Prop} (agree : Agree act s other t good bad)
    (answers : ∀ a s b t, good a s b t → good' a s b t)
    (fails : ∀ e s e' t, bad e s e' t → bad' e s e' t) : Agree act s other t good' bad' := by
  apply Ends.imp agree
  · exact fun a s' ends => ends.imp (answers a s') fun _ _ no => no
  · exact fun e s' ends => ends.imp (fun _ _ no => no) (fails e s')

theorem Agree.of_left {act : EStateM ε σ γ} {next : γ → EStateM ε σ α} {other : EStateM ε τ β}
    (ends : Ends act s (fun c s => Agree (next c) s other t good bad) fun _ _ => False) :
    Agree (act >>= next) s other t good bad := by
  unfold Agree
  rw [ends_bind]
  exact ends.imp (fun _ _ agree => agree) fun _ _ no => no.elim

theorem Agree.of_right {act : EStateM ε σ α} {other : EStateM ε τ δ} {follow : δ → EStateM ε τ β}
    (ends : Ends other t (fun d t => Agree act s (follow d) t good bad) fun _ _ => False) :
    Agree act s (other >>= follow) t good bad := by
  unfold Ends at ends
  cases acted : other t with
  | error e t' => simp [acted] at ends
  | ok d t' =>
    simp only [acted] at ends
    apply Ends.imp ends <;>
    · intro _ _ later
      rw [ends_bind]
      simpa only [Ends, acted] using later

theorem Agree.bind {act : EStateM ε σ γ} {other : EStateM ε τ δ} {next : γ → EStateM ε σ α}
    {follow : δ → EStateM ε τ β} {middle : γ → σ → δ → τ → Prop}
    (agree : Agree act s other t middle bad)
    (rest : ∀ c s d t, middle c s d t → Agree (next c) s (follow d) t good bad) :
    Agree (act >>= next) s (other >>= follow) t good bad := by
  unfold Agree
  rw [ends_bind]
  apply Ends.imp agree
  · exact fun c s' ends => Agree.of_right (ends.imp (rest c s') fun _ _ no => no)
  · intro e s' ends
    rw [ends_bind]
    exact ends.imp (fun _ _ no => no.elim) fun _ _ failed => failed

theorem Agree.and_left {act : EStateM ε σ α} {other : EStateM ε τ β} {good' : α → σ → Prop}
    {bad' : ε → σ → Prop} (agree : Agree act s other t good bad) (ends : Ends act s good' bad') :
    Agree act s other t (fun a s b t => good a s b t ∧ good' a s)
      (fun e s e' t => bad e s e' t ∧ bad' e s) := by
  apply (Ends.and agree ends).imp
  · exact fun a s' both => both.1.imp (fun _ _ ended => ⟨ended, both.2⟩) fun _ _ no => no
  · exact fun e s' both => both.1.imp (fun _ _ no => no) fun _ _ ended => ⟨ended, both.2⟩

theorem Agree.and_right {act : EStateM ε σ α} {other : EStateM ε τ β} {good' : β → τ → Prop}
    {bad' : ε → τ → Prop} (agree : Agree act s other t good bad) (ends : Ends other t good' bad') :
    Agree act s other t (fun a s b t => good a s b t ∧ good' b t)
      (fun e s e' t => bad e s e' t ∧ bad' e' t) := by
  apply Ends.imp agree
  · exact fun a s' first => (first.and ends).imp (fun _ _ both => both) fun _ _ no => no.1
  · exact fun e s' first => (first.and ends).imp (fun _ _ no => no.1) fun _ _ both => both

theorem Agree.map {act : EStateM ε σ γ} {other : EStateM ε τ δ} {change : γ → α} {change' : δ → β}
    (agree : Agree act s other t (fun c s d t => good (change c) s (change' d) t) bad) :
    Agree (change <$> act) s (change' <$> other) t good bad := by
  unfold Agree at agree ⊢
  simpa only [ends_map] using agree

theorem Agree.pure_right {act : EStateM ε σ α} {other : EStateM ε τ δ} {change : δ → β}
    (agree : Agree act s other t (fun a s d t => good a s (change d) t) bad) :
    Agree act s (other >>= fun d => pure (change d)) t good bad := by
  unfold Agree at agree ⊢
  simpa only [ends_bind, ends_pure] using agree

theorem Agree.meet {υ ζ : Type} {act : EStateM ε σ α} {other : EStateM ε τ β}
    {third : EStateM ε υ ζ} {r : υ} {good' : β → τ → ζ → υ → Prop} {bad' : ε → τ → ε → υ → Prop}
    {first : α → σ → ζ → υ → Prop} {failed : ε → σ → ε → υ → Prop}
    (agree : Agree act s third r first failed) (agree' : Agree other t third r good' bad')
    (answers : ∀ a s b t c r, first a s c r → good' b t c r → good a s b t)
    (fails : ∀ e s f t g r, failed e s g r → bad' f t g r → bad e s f t) :
    Agree act s other t good bad := by
  rw [agree_iff] at agree agree' ⊢
  revert agree agree'
  cases act s <;> cases other t <;> cases third r <;> intro agree agree' <;>
    first
    | exact answers _ _ _ _ _ _ agree agree'
    | exact fails _ _ _ _ _ _ agree agree'
    | exact False.elim agree
    | exact False.elim agree'

theorem Ends.agree {act : EStateM ε σ α} {good : α → σ → Prop} {bad : ε → σ → Prop}
    (ends : Ends act s good bad) :
    Agree act s act s (fun a t b u => a = b ∧ t = u ∧ good a t)
      (fun e t e' u => e = e' ∧ t = u ∧ bad e t) := by
  rw [agree_iff]
  cases acted : act s with
  | ok a t => exact ⟨rfl, rfl, ends.of_ok acted⟩
  | error e t => exact ⟨rfl, rfl, ends.of_error acted⟩

theorem Agree.ends {act : EStateM ε σ α} {good : α → σ → α → σ → Prop}
    {bad : ε → σ → ε → σ → Prop} (agree : Agree act s act s good bad) :
    Ends act s (fun a t => good a t a t) (fun e t => bad e t e t) := by
  rw [agree_iff] at agree
  unfold Ends
  cases acted : act s <;> simpa only [acted] using agree

theorem agree_get_bind {next : σ → EStateM ε σ α} {follow : τ → EStateM ε τ β}
    (agree : Agree (next s) s (follow t) t good bad) :
    Agree (get >>= next) s (get >>= follow) t good bad :=
  agree

section Actions

variable {good : α → σ → β → τ → Prop} {bad : Error → σ → Error → τ → Prop}

theorem agree_ofExcept_bind {result : Except Error γ} {next : γ → Action σ α}
    {follow : γ → Action τ β}
    (answers : ∀ c, result = .ok c → Agree (next c) s (follow c) t good bad)
    (fails : ∀ e, result = .error e → bad e s e t) :
    Agree (ofExcept result >>= next) s (ofExcept result >>= follow) t good bad := by
  cases result with
  | ok c => exact answers c rfl
  | error e => exact fails e rfl

theorem agree_focus {σ' τ' : Type} {part : σ → σ'} {replace : σ → σ' → σ} {part' : τ → τ'}
    {replace' : τ → τ' → τ} {act : Action σ' α} {other : Action τ' β}
    (agree : Agree act (part s) other (part' t)
      (fun a s' b t' => good a (replace s s') b (replace' t t'))
      (fun e s' e' t' => bad e (replace s s') e' (replace' t t'))) :
    Agree (focus part replace act) s (focus part' replace' other) t good bad := by
  unfold Agree at agree ⊢
  simpa only [ends_focus] using agree

theorem agree_rescue {act : Action σ α} {other : Action τ β} {handler : Error → Action σ α}
    {handler' : Error → Action τ β} {failed : Error → σ → Error → τ → Prop}
    (agree : Agree act s other t good failed)
    (handled : ∀ e s e' t, failed e s e' t → Agree (handler e) s (handler' e') t good bad) :
    Agree (rescue act handler) s (rescue other handler') t good bad := by
  rw [agree_iff] at agree
  revert agree
  unfold Agree Ends rescue
  cases act s with
  | ok a s' =>
    cases other t with
    | ok b t' => exact id
    | error => exact False.elim
  | error e s' =>
    cases other t with
    | ok => exact False.elim
    | error e' t' => exact handled e s' e' t'

theorem agree_request {fault : Fault → Error} {request' : Request σ α} {other : Request τ β}
    (agree : Agree request' s other t good (fun f s g t => bad (fault f) s (fault g) t)) :
    Agree (request fault request') s (request fault other) t good bad := by
  unfold Agree at agree ⊢
  simpa only [ends_request] using agree

end Actions

end Action

end QueryBook
