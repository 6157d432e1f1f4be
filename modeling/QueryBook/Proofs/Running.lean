import QueryBook.Proofs.Compiling
import QueryBook.Proofs.Pairing

set_option autoImplicit false

namespace QueryBook

namespace Compiler

variable {σ : Type}

def Making.ofMoves (c : Compiler σ) (moves : σ → σ → Prop) (refl : ∀ s, moves s s)
    (trans : ∀ {s t u}, moves s t → moves t u → moves s u)
    (prepare : ∀ sql n s, Action.Ends (c.connection.prepare sql n) s (fun _ t => moves s t)
      (fun _ t => moves s t)) : c.Making where
  Known := fun _ _ _ => True
  Moves := moves
  refl := refl
  trans := trans
  known_of_moves := fun _ _ => trivial
  makes _ s :=
    (Statement.ends_create_of_prepare (refl s) fun sql n => prepare sql n s).imp
      (fun _ _ moved => ⟨moved, fun _ => trivial⟩) fun _ _ moved => moved

theorem foresees_any (c : Compiler σ) : c.Foresees (fun _ => True) (fun _ => True) where
  inward := fun _ _ => trivial
  missing := fun _ _ => trivial
  malformed := fun _ _ _ => trivial
  cyclic := fun _ _ _ _ _ => trivial
  statement := fun _ _ _ desk =>
    (Action.ends_self _ desk).imp (fun _ _ _ => trivial) fun _ _ _ => trivial
  blame := fun _ _ => trivial

end Compiler

namespace Call

variable {σ α : Type} {c : Compiler σ}

@[simp] theorem ends_onDesk {call : Call σ} {good : α → Call σ → Prop}
    {bad : Error → Call σ → Prop} (act : Action (Desk σ) α) :
    Action.Ends (onDesk act) call good bad ↔
      Action.Ends act call.toDesk (fun a desk => good a { call with toDesk := desk })
        (fun e desk => bad e { call with toDesk := desk }) := by
  simp only [onDesk, Action.ends_focus]

@[simp] theorem ends_onSession {call : Call σ} {good : α → Call σ → Prop}
    {bad : Error → Call σ → Prop} (act : Action Session α) :
    Action.Ends (onSession act) call good bad ↔
      Action.Ends act call.session (fun a session => good a { call with session })
        (fun e session => bad e { call with session }) := by
  simp only [onSession, Action.ends_focus]

@[simp] theorem ends_onStage {call : Call σ} {good : α → Call σ → Prop}
    {bad : Error → Call σ → Prop} (act : Action (Stage σ) α) :
    Action.Ends (onStage act) call good bad ↔
      Action.Ends act call.stage (fun a stage => good a (call.setStage stage))
        (fun e stage => bad e (call.setStage stage)) := by
  simp only [onStage, Action.ends_focus]

-- A run goes on in the steps of its compiler, and every tag it enters it leaves again.
structure Passes (m : c.Making) (call t : Call σ) : Prop where
  steps : Compiler.Steps m call.toDesk t.toDesk
  stack : t.session.stack = call.session.stack

theorem Passes.refl (m : c.Making) (call : Call σ) : Passes m call call :=
  ⟨.refl, rfl⟩

theorem Passes.trans {m : c.Making} {call t u : Call σ} (first : Passes m call t)
    (second : Passes m t u) : Passes m call u :=
  ⟨first.steps.trans second.steps, second.stack.trans first.stack⟩

theorem ends_runStatement (m : c.Making) (works : c.connection.WorksBy m.Moves) (s : Statement)
    (call : Call σ) :
    Action.Ends (runStatement c.connection s) call (fun _ t => Passes m call t)
      (fun e t => Passes m call t ∧ e.Late c.connection) := by
  simp only [runStatement, Action.ends_bind, ends_onStage, ends_onSession, Action.ends_modify]
  apply (Statement.ends_execute_moves works s call.stage).imp
  · exact fun _ stage moved => ⟨.single (.asked _ stage.conn stage.journal moved), rfl⟩
  · exact fun _ stage failed => ⟨⟨.single (.asked _ stage.conn stage.journal failed.1), rfl⟩,
      failed.2⟩

structure Tour (m : c.Making) (Fine : String → Prop) (Bad : Error → Prop) where
  Holds : Desk σ → Prop
  Enters : List String → String → Prop
  Ran : Nat → String → Prop
  kept : ∀ {desk t}, Compiler.Steps m desk t → Holds desk → Holds t
  fine : ∀ {stack tag}, Enters stack tag → Fine tag
  cyclic : ∀ {stack tag}, Enters stack tag → tag ∈ stack → Bad (.includeCycle (stack ++ [tag]))
  deep : ∀ limit stack tag, Bad (.includeDepth limit (stack ++ [tag]))
  late : ∀ e : Error, e.Late c.connection → Bad e
  inward : ∀ {desk stack tag chain inner}, Holds desk → Enters stack tag → tag ∉ stack →
    c.library.chain? desk.cache tag = some chain → inner ∈ chain.includes →
    Enters (stack ++ [tag]) inner
  ran : ∀ {desk tag chain room}, Holds desk → c.library.chain? desk.cache tag = some chain →
    (∀ inner ∈ chain.includes, Ran room inner) → Ran (room + 1) tag

def Tour.any (m : c.Making) : Tour m (fun _ => True) (fun _ => True) where
  Holds := fun _ => True
  Enters := fun _ _ => True
  Ran := fun _ _ => True
  kept := fun _ _ => trivial
  fine := fun _ => trivial
  cyclic := fun _ _ => trivial
  deep := fun _ _ _ => trivial
  late := fun _ _ => trivial
  inward := fun _ _ _ _ _ => trivial
  ran := fun _ _ _ => trivial

@[simp] theorem ends_within {call : Call σ} {tag : String} {act : Action (Call σ) Unit}
    {good : Unit → Call σ → Prop} {bad : Error → Call σ → Prop} :
    Action.Ends (within tag act) call good bad ↔
      Action.Ends act { call with session := call.session.push tag }
        (fun a t => good a { t with session := t.session.pop })
        (fun e t => bad e { t with session := t.session.pop }) := by
  simp only [within, Action.ends_bind, ends_onSession, Action.ends_modify, Action.ends_andThen]

@[simp] theorem ends_noteInclude {call : Call σ} {tag : String} {good : Unit → Call σ → Prop}
    {bad : Error → Call σ → Prop} :
    Action.Ends (noteInclude tag) call good bad ↔
      good () { call with
        journal := call.journal ++ [.ofTag "librarian"
          ("EXECUTE " ++ tag ++ " (included from " ++ call.session.stack.getLastD "" ++ ")")
          tag] } := by
  simp only [noteInclude, Action.ends_bind, Action.ends_get, ends_onDesk, Desk.ends_onCatalog,
    Catalog.note, Action.ends_modify]

section Runs

variable {m : c.Making} {Fine : String → Prop} {Bad : Error → Prop}

theorem ends_runEntries (works : c.connection.WorksBy m.Moves)
    (late : ∀ e : Error, e.Late c.connection → Bad e) {Ran : String → Prop}
    {runTag : String → Action (Call σ) Unit} (entries : List ChainEntry) (call : Call σ)
    (each : ∀ tag, .inclusion tag ∈ entries → ∀ t, Passes m call t →
      Action.Ends (runTag tag) t (fun _ u => Passes m t u ∧ Ran tag)
        (fun e u => Passes m t u ∧ Bad e)) :
    Action.Ends (runEntries c.connection runTag entries) call
      (fun _ t => Passes m call t ∧ ∀ tag, .inclusion tag ∈ entries → Ran tag)
      (fun e t => Passes m call t ∧ Bad e) := by
  induction entries generalizing call with
  | nil => exact ⟨.refl m call, by simp⟩
  | cons entry rest ih =>
    have goes_on {t : Call σ} (passed : Passes m call t) :
        Action.Ends (runEntries c.connection runTag rest) t
          (fun _ u => Passes m t u ∧ ∀ tag, .inclusion tag ∈ rest → Ran tag)
          (fun e u => Passes m t u ∧ Bad e) :=
      ih t fun tag member u later => each tag (by simp [member]) u (passed.trans later)
    cases entry with
    | statement s =>
      simp only [runEntries, Action.ends_bind]
      apply (ends_runStatement m works s call).imp
      · intro _ t passed
        apply (goes_on passed).imp
        · exact fun _ _ done => ⟨passed.trans done.1, by simpa using done.2⟩
        · exact fun _ _ failed => ⟨passed.trans failed.1, failed.2⟩
      · exact fun e _ failed => ⟨failed.1, late e failed.2⟩
    | inclusion tag =>
      simp only [runEntries, Action.ends_bind]
      apply (each tag (by simp) call (.refl m call)).imp
      · intro _ t ended
        obtain ⟨passed, ran⟩ := ended
        apply (goes_on passed).imp
        · exact fun _ _ done => ⟨passed.trans done.1, by simpa [ran] using done.2⟩
        · exact fun _ _ failed => ⟨passed.trans failed.1, failed.2⟩
      · exact fun _ _ failed => failed

-- By induction on how many tags the stack may still grow by.
theorem ends_runInclude (works : c.connection.WorksBy m.Moves) (foreseen : c.Foresees Fine Bad)
    (tour : Tour m Fine Bad) (limit room : Nat) (tag : String) (call : Call σ)
    (holds : tour.Holds call.toDesk) (enters : tour.Enters call.session.stack tag) :
    Action.Ends (runInclude c limit room tag) call
      (fun _ t => Passes m call t ∧ tour.Ran room tag)
      (fun e t => Passes m call t ∧ Bad e) := by
  induction room generalizing tag call with
  | zero =>
    simp only [runInclude, Action.ends_bind, Action.ends_get]
    split
    next cyclic => exact ⟨.refl m call, tour.cyclic enters cyclic⟩
    next => exact ⟨.refl m call, tour.deep limit _ tag⟩
  | succ room ih =>
    simp only [runInclude, Action.ends_bind, Action.ends_get]
    split
    next cyclic => exact ⟨.refl m call, tour.cyclic enters cyclic⟩
    next fresh =>
      simp only [Action.ends_bind, ends_onDesk, ends_noteInclude, ends_within]
      apply (Compiler.ends_get m foreseen tag (tour.fine enters) call.toDesk).imp
      · intro chain desk ended
        obtain ⟨steps, counts⟩ := ended
        have later := tour.kept steps holds
        generalize inside : Call.mk _ _ (Session.push _ tag) = call'
        have stack : call'.session.stack = call.session.stack ++ [tag] := by
          rw [← inside]
          rfl
        have entered : Compiler.Steps m call.toDesk call'.toDesk := by
          rw [← inside]
          exact steps.tail (.asked desk desk.conn _ (m.refl _))
        have each (inner : String) (member : .inclusion inner ∈ chain.entries) (t : Call σ)
            (passed : Passes m call' t) :
            Action.Ends (runInclude c limit room inner) t
              (fun _ u => Passes m t u ∧ tour.Ran room inner)
              (fun e u => Passes m t u ∧ Bad e) := by
          apply ih inner t (tour.kept (entered.trans passed.steps) holds)
          rw [passed.stack, stack]
          exact tour.inward later enters fresh counts (Library.mem_includes.mpr member)
        have left {t : Call σ} (passed : Passes m call' t) :
            Passes m call { t with session := t.session.pop } := by
          refine ⟨entered.trans passed.steps, ?_⟩
          simp [Session.pop, passed.stack, stack]
        apply (ends_runEntries works tour.late chain.entries call' each).imp
        · intro _ t ended
          obtain ⟨passed, ran⟩ := ended
          exact ⟨left passed, tour.ran later counts fun inner member =>
            ran inner (Library.mem_includes.mp member)⟩
        · exact fun _ _ failed => ⟨left failed.1, failed.2⟩
      · exact fun e desk failed => ⟨⟨failed.1, rfl⟩, failed.2.2⟩

theorem ends_runChain (works : c.connection.WorksBy m.Moves) (foreseen : c.Foresees Fine Bad)
    (tour : Tour m Fine Bad) (limit : Nat) {tag : String} {chain : Chain} (call : Call σ)
    (holds : tour.Holds call.toDesk) (enters : tour.Enters [] tag)
    (stack : call.session.stack = [tag])
    (counts : c.library.chain? call.cache tag = some chain) :
    Action.Ends (runChain c limit chain) call
      (fun _ t => Passes m call t ∧ tour.Ran (limit - 1 + 1) tag)
      (fun e t => Passes m call t ∧ Bad e) := by
  have each (inner : String) (member : .inclusion inner ∈ chain.entries) (t : Call σ)
      (passed : Passes m call t) :
      Action.Ends (runInclude c limit (limit - 1) inner) t
        (fun _ u => Passes m t u ∧ tour.Ran (limit - 1) inner)
        (fun e u => Passes m t u ∧ Bad e) := by
    apply ends_runInclude works foreseen tour limit (limit - 1) inner t
      (tour.kept passed.steps holds)
    rw [passed.stack, stack]
    exact tour.inward holds enters List.not_mem_nil counts (Library.mem_includes.mpr member)
  apply (ends_runEntries works tour.late chain.entries call each).imp
  · intro _ t ended
    obtain ⟨passed, ran⟩ := ended
    exact ⟨passed, tour.ran holds counts fun inner member =>
      ran inner (Library.mem_includes.mp member)⟩
  · exact fun _ _ failed => failed

end Runs

end Call

end QueryBook
