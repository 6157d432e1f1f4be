import QueryBook.Proofs.Merging
import QueryBook.Proofs.Recorded
import QueryBook.Statement.Run

set_option autoImplicit false

namespace QueryBook

namespace Connection

variable {σ : Type}

inductive Raises (conn : Connection σ) (f : Fault) : Prop where
  | prepare {sql : String} {n : Nat} {s t : σ} (answered : conn.prepare sql n s = .error f t)
  | execute {h : Handle} {values : List Value} {s t : σ}
    (answered : conn.execute h values s = .error f t)
  | describe {h : Handle} {s t : σ} (answered : conn.describe h s = .error f t)
  | fetch {h : Handle} {s t : σ} (answered : conn.fetch h s = .error f t)
  | commit {s t : σ} (answered : conn.commit s = .error f t)
  | rollback {s t : σ} (answered : conn.rollback s = .error f t)
  | close {s t : σ} (answered : conn.close s = .error f t)

-- The errors of templates are left to the library: the connection raises none of them.
def BlamesNoTemplate (conn : Connection σ) : Prop :=
  ∀ e own, conn.Raises (.library e own) → e.kind.isCompile = false

theorem error_of_record {α : Type} (entry : Except Fault α → Asked) {request : Request σ α}
    {s t : Recorded σ} {f : Fault} (failed : record entry request s = .error f t) :
    request s.state = .error f t.state := by
  unfold record at failed
  split at failed
  · cases failed
  next answered =>
    cases failed
    exact answered

theorem Raises.of_recorded {conn : Connection σ} {f : Fault} (raised : conn.recorded.Raises f) :
    conn.Raises f := by
  cases raised with
  | prepare answered => exact .prepare (error_of_record (fun _ => .prepare _ _) answered)
  | execute answered => exact .execute (error_of_record (.execute _ _) answered)
  | describe answered => exact .describe (error_of_record (fun _ => .describe _) answered)
  | fetch answered => exact .fetch (error_of_record (fun _ => .fetch _) answered)
  | commit answered => exact .commit (error_of_record (fun _ => .commit) answered)
  | rollback answered => exact .rollback (error_of_record (fun _ => .rollback) answered)
  | close answered => exact .close (error_of_record (fun _ => .close) answered)

theorem BlamesNoTemplate.recorded {conn : Connection σ} (blames : conn.BlamesNoTemplate) :
    conn.recorded.BlamesNoTemplate :=
  fun e own raised => blames e own raised.of_recorded

end Connection

structure Error.Late {σ : Type} (conn : Connection σ) (e : Error) : Prop where
  library : e.isLibrary = true
  compile : e.kind.isCompile = true → ∃ own, conn.Raises (.library e own)

theorem Error.Late.of_kind {σ : Type} {conn : Connection σ} {e : Error}
    (library : e.kind.isLibrary = true) (compile : e.kind.isCompile = false) : e.Late conn :=
  ⟨library, fun compiles => by simp [compile] at compiles⟩

theorem Error.Late.not_compile {σ : Type} {conn : Connection σ} {e : Error} (late : e.Late conn)
    (blames : conn.BlamesNoTemplate) : e.kind.isCompile = false := by
  cases compiles : e.kind.isCompile with
  | false => rfl
  | true =>
    obtain ⟨own, raised⟩ := late.compile compiles
    exact compiles.symm.trans (blames e own raised)

theorem Error.late_of_dataShape {σ : Type} {conn : Connection σ} {e : Error}
    (kind : e.kind = .dataShape) : e.Late conn :=
  .of_kind (by rw [kind]; rfl) (by rw [kind]; rfl)

structure Error.Names (e : Error) (key : String) : Prop where
  kind : e.kind = .resolution
  facts : e.report.facts = [("key", .text key)]

theorem Error.Names.late {σ : Type} {conn : Connection σ} {e : Error} {key : String}
    (names : e.Names key) : e.Late conn :=
  .of_kind (by rw [names.kind]; rfl) (by rw [names.kind]; rfl)

theorem Connection.Raises.late {σ : Type} {conn : Connection σ} {f : Fault} (raised : conn.Raises f)
    (sql : Option String) : (Error.wrapFault sql f).Late conn := by
  cases f with
  | foreign name text => exact .of_kind rfl rfl
  | library e own => exact ⟨own, fun _ => ⟨own, raised⟩⟩

section Lists

variable {ε α β : Type} {f : α → Except ε β} {xs : List α} {e : ε}

theorem mapM_eq_ok_iff {ys : List β} :
    xs.mapM f = .ok ys ↔ List.Forall₂ (fun x y => f x = .ok y) xs ys := by
  induction xs generalizing ys with
  | nil => simp [pure, Except.pure, eq_comm]
  | cons x xs ih =>
    rw [List.mapM_cons]
    cases first : f x with
    | error e' => cases ys <;> simp [first, bind, Except.bind]
    | ok y =>
      cases rest : xs.mapM f with
      | error e' => cases ys <;> simp [first, ← ih, rest, bind, Except.bind]
      | ok ys' =>
        cases ys <;> simp [first, ← ih, rest, bind, Except.bind, pure, Except.pure]

-- Something fails with an error for a member of a list, and for none before it.
def FirstFails (f : α → Except ε β) (xs : List α) (x : α) (e : ε) : Prop :=
  ∃ before after, xs = before ++ x :: after ∧ (∀ y ∈ before, ∃ b, f y = .ok b) ∧ f x = .error e

theorem mapM_eq_error_iff : xs.mapM f = .error e ↔ ∃ x, FirstFails f xs x e := by
  induction xs with
  | nil => simp [FirstFails, pure, Except.pure]
  | cons x xs ih =>
    rw [List.mapM_cons]
    cases first : f x with
    | error e' =>
      suffices e' = e ↔ ∃ y, FirstFails f (x :: xs) y e by simpa [bind, Except.bind]
      constructor
      · rintro rfl
        exact ⟨x, [], xs, rfl, by simp, first⟩
      · rintro ⟨y, before, after, split, fine, failed⟩
        cases before with
        | nil =>
          obtain ⟨rfl, -⟩ := List.cons.inj split
          exact Except.error.inj (first.symm.trans failed)
        | cons z before =>
          obtain ⟨rfl, -⟩ := List.cons.inj split
          obtain ⟨b, good⟩ := fine x (List.mem_cons_self ..)
          cases first.symm.trans good
    | ok b =>
      have later (y : α) : FirstFails f (x :: xs) y e ↔ FirstFails f xs y e := by
        constructor
        · rintro ⟨before, after, split, fine, failed⟩
          cases before with
          | nil =>
            obtain ⟨rfl, -⟩ := List.cons.inj split
            cases first.symm.trans failed
          | cons z before =>
            obtain ⟨-, split⟩ := List.cons.inj split
            exact ⟨before, after, split, fun w member => fine w (.tail _ member), failed⟩
        · rintro ⟨before, after, rfl, fine, failed⟩
          exact ⟨x :: before, after, rfl, List.forall_mem_cons.mpr ⟨⟨b, first⟩, fine⟩, failed⟩
      simp only [later, ← ih]
      cases xs.mapM f <;> simp [bind, Except.bind, pure, Except.pure]

theorem exists_mapM_iff : (∃ ys, xs.mapM f = .ok ys) ↔ ∀ x ∈ xs, ∃ y, f x = .ok y := by
  simp only [mapM_eq_ok_iff]
  induction xs with
  | nil => simp
  | cons x xs ih =>
    simp only [List.forall₂_cons_left_iff, List.forall_mem_cons, ← ih]
    grind

end Lists

namespace Placement

variable {placement : Placement} {data : Fields} {key : String} {e : Error}

theorem names_of_unwrap {held : Value} (failed : placement.unwrap key held = .error e) :
    e.Names key := by
  unfold unwrap at failed
  split at failed
  · cases failed
  · split at failed <;> cases failed
    exact ⟨rfl, rfl⟩

theorem names_of_resolve (failed : placement.resolve data key = .error e) : e.Names key := by
  unfold resolve at failed
  split at failed
  · cases failed
    exact ⟨rfl, rfl⟩
  next held _ =>
    split at failed
    next unwrapped =>
      cases failed
      exact names_of_unwrap unwrapped
    next v _ =>
      split at failed <;> cases failed
      exact ⟨rfl, rfl⟩

theorem names_of_resolveText (failed : placement.resolveText data key = .error e) :
    e.Names key := by
  unfold resolveText at failed
  split at failed
  next unresolved =>
    cases failed
    exact names_of_resolve unresolved
  next v _ =>
    split at failed <;> cases failed
    exact ⟨rfl, rfl⟩

end Placement

theorem Data.kind_of_assignRows {data : Fields} {labels : List String} {rows : List Fields}
    {e : Error} (failed : assignRows data labels rows = .error e) : e.kind = .dataShape := by
  unfold assignRows at failed
  simp only at failed
  split at failed <;> cases failed
  rfl

namespace Statement

variable {σ : Type} {s : Statement} {conn : Connection σ} {moves : σ → σ → Prop}

def draft (style : MarkerStyle) (placement : Placement) (source : String) :
    Except Error Statement :=
  match StatementKind.classify source with
  | .error e => .error e
  | .ok (kind, sql) =>
    .ok { source, kind, marked := MarkedText.ofText style sql, placement, handle := none }

theorem handle_of_draft {style : MarkerStyle} {placement : Placement} {source : String}
    {d : Statement} (drafted : draft style placement source = .ok d) : d.handle = none := by
  unfold draft at drafted
  split at drafted <;> cases drafted
  rfl

theorem source_of_draft {style : MarkerStyle} {placement : Placement} {source : String}
    {d : Statement} (drafted : draft style placement source = .ok d) : d.source = source := by
  unfold draft at drafted
  split at drafted <;> cases drafted
  rfl

theorem create_eq (conn : Connection σ) (style : Option MarkerStyle) (placement : Placement)
    (source : String) :
    create conn style placement source = (do
      let d ← Action.ofExcept (draft (style.getD conn.style) placement source)
      if d.marked.needsSubstitution then pure d
      else
        let handle ← prepareText conn d.sql d.marked.bindNames.length
        pure { d with handle := some handle }) := by
  unfold create draft
  cases StatementKind.classify source <;> rfl

theorem ends_create_of_prepare {style : Option MarkerStyle} {placement : Placement}
    {source : String} {state : σ} (refl : moves state state)
    (prepare : ∀ sql n, Action.EndsIn (conn.prepare sql n) state (moves state)) :
    Action.EndsIn (create conn style placement source) state (moves state) := by
  rw [create_eq]
  simp only [Action.ends_bind, Action.ends_ofExcept]
  cases draft (style.getD conn.style) placement source with
  | error e => exact refl
  | ok d =>
    simp only
    split
    · exact refl
    · simpa only [Action.ends_bind, prepareText, Action.ends_request, Action.ends_pure] using
        prepare d.sql d.marked.bindNames.length

theorem ends_create_source (conn : Connection σ) (style : Option MarkerStyle)
    (placement : Placement) (source : String) (state : σ) :
    Action.Ends (create conn style placement source) state (fun st _ => st.source = source)
      (fun _ _ => True) := by
  rw [create_eq]
  simp only [Action.ends_bind, Action.ends_ofExcept]
  cases drafted : draft (style.getD conn.style) placement source with
  | error e => trivial
  | ok d =>
    have same := source_of_draft drafted
    simp only
    split
    · exact same
    · simp only [Action.ends_bind, prepareText, Action.ends_request, Action.ends_pure]
      exact (Action.ends_self _ state).imp (fun _ _ _ => same) fun _ _ _ => trivial

theorem textFor_eq_ok_iff {data : Fields} {text : String} :
    s.textFor data = .ok text ↔
      ∃ texts, List.Forall₂ (fun key value => s.placement.resolveText data key = .ok value)
        s.marked.directNames texts ∧ s.marked.fill texts = text := by
  simp only [textFor, ← mapM_eq_ok_iff]
  cases s.marked.directNames.mapM (s.placement.resolveText data) <;>
    simp [Functor.map, Except.map]

theorem textFor_eq_error_iff {data : Fields} {e : Error} :
    s.textFor data = .error e ↔
      ∃ key, FirstFails (s.placement.resolveText data) s.marked.directNames key e := by
  simp only [textFor, ← mapM_eq_error_iff]
  cases s.marked.directNames.mapM (s.placement.resolveText data) <;>
    simp [Functor.map, Except.map]

theorem exists_textFor_iff {data : Fields} :
    (∃ text, s.textFor data = .ok text) ↔
      ∀ key ∈ s.marked.directNames, ∃ text, s.placement.resolveText data key = .ok text := by
  rw [← exists_mapM_iff]
  simp only [textFor]
  cases s.marked.directNames.mapM (s.placement.resolveText data) <;>
    simp [Functor.map, Except.map]

theorem late_of_parameters {data : Fields} {e : Error}
    (failed : s.parameters data = .error e) : e.Late conn := by
  obtain ⟨key, _, _, -, -, unresolved⟩ := mapM_eq_error_iff.mp failed
  exact (Placement.names_of_resolve unresolved).late

theorem late_of_textFor {data : Fields} {e : Error} (failed : s.textFor data = .error e) :
    e.Late conn := by
  obtain ⟨key, _, _, -, -, unresolved⟩ := textFor_eq_error_iff.mp failed
  exact (Placement.names_of_resolveText unresolved).late

theorem ends_ready_late (s : Statement) (data : Fields) (state : σ) :
    Action.Ends (s.ready conn data) state (fun _ _ => True) (fun e _ => e.Late conn) := by
  unfold ready
  cases s.handle with
  | some h => trivial
  | none =>
    simp only [prepareText, Action.ends_bind, Action.ends_ofExcept, Action.ends_request,
      Action.ends_pure]
    cases filled : s.textFor data with
    | error e => exact late_of_textFor filled
    | ok sql =>
      apply (Action.ends_self _ state).imp
      · exact fun _ _ _ => trivial
      · exact fun f t refused => (Connection.Raises.prepare refused).late (some sql)

end Statement

namespace Stage

variable {σ α : Type}

@[simp] theorem ends_onLink {stage : Stage σ} {good : α → Stage σ → Prop}
    {bad : Error → Stage σ → Prop} (act : Action (Link σ) α) :
    Action.Ends (onLink act) stage good bad ↔
      Action.Ends act stage.toLink (fun a link => good a { stage with toLink := link })
        (fun e link => bad e { stage with toLink := link }) := by
  simp only [onLink, Action.ends_focus]

@[simp] theorem ends_onData {stage : Stage σ} {good : α → Stage σ → Prop}
    {bad : Error → Stage σ → Prop} (act : Action Fields α) :
    Action.Ends (onData act) stage good bad ↔
      Action.Ends act stage.data (fun a data => good a { stage with data })
        (fun e data => bad e { stage with data }) := by
  simp only [onData, Action.ends_focus]

@[simp] theorem ends_onConn {link : Link σ} {good : α → Link σ → Prop}
    {bad : Error → Link σ → Prop} (act : Action σ α) :
    Action.Ends (Link.onConn act) link good bad ↔
      Action.Ends act link.conn (fun a conn => good a { link with conn })
        (fun e conn => bad e { link with conn }) := by
  simp only [Link.onConn, Action.ends_focus]

end Stage

end QueryBook
