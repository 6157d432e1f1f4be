import QueryBook.Proofs.Closure
import Mathlib.Computability.StateTransition

set_option autoImplicit false

namespace QueryBook

open QueryBook.Action StateTransition

-- A moment of a run: either the entries that are left of the innermost tag are run next, or an
-- error makes its way out. Beside them stands what is left of the tags around it, the nearest
-- first.
inductive Moment (σ : Type) where
  | going (call : Call σ) (entries : List ChainEntry) (outer : List (List ChainEntry))
  | raising (e : Error) (call : Call σ) (outer : List (List ChainEntry))

namespace Call

variable {σ : Type}

def leave (call : Call σ) : Call σ :=
  { call with session := call.session.pop }

def enter (c : Compiler σ) (limit : Nat) (tag : String) : Action (Call σ) Chain := do
  let stack := (← get).session.stack
  if tag ∈ stack then throw (.includeCycle (stack ++ [tag]))
  if limit ≤ stack.length then throw (.includeDepth limit (stack ++ [tag]))
  let chain ← onDesk (c.get tag)
  noteInclude tag
  onSession (modify (·.push tag))
  pure chain

end Call

namespace Moment

variable {σ : Type}

def call : Moment σ → Call σ
  | .going call _ _ => call
  | .raising _ call _ => call

def outer : Moment σ → List (List ChainEntry)
  | .going _ _ outer => outer
  | .raising _ _ outer => outer

def stack (m : Moment σ) : List String :=
  m.call.session.stack

def resume : EStateM.Result Error (Call σ) Unit → List ChainEntry → List (List ChainEntry) →
    Moment σ
  | .ok () call, rest, outer => .going call rest outer
  | .error e call, _, outer => .raising e call outer

def next (c : Compiler σ) (limit : Nat) : Moment σ → Option (Moment σ)
  | .going _ [] [] => none
  | .going call [] (rest :: outer) => some (.going call.leave rest outer)
  | .going call (.statement s :: rest) outer =>
    some (resume (Call.runStatement c.connection s call) rest outer)
  | .going call (.inclusion tag :: rest) outer =>
    match Call.enter c limit tag call with
    | .ok chain after => some (.going after chain.entries (rest :: outer))
    | .error e after => some (.raising e after outer)
  | .raising _ _ [] => none
  | .raising e call (_ :: outer) => some (.raising e call.leave outer)

end Moment

namespace Call

variable {σ : Type} {c : Compiler σ} {limit : Nat}

theorem ends_runStatement_stack (s : Statement) (call : Call σ) :
    EndsIn (runStatement c.connection s) call (fun t => t.session.stack = call.session.stack) :=
  (ends_runStatement c.classifying (Connection.MovesBy.any _).toWorksBy s call).imp
    (fun _ _ passed => passed.stack) fun _ _ failed => failed.1.stack

theorem ends_runInclude_stack (limit room : Nat) (tag : String) (call : Call σ) :
    EndsIn (runInclude c limit room tag) call (fun t => t.session.stack = call.session.stack) :=
  (ends_runInclude (Connection.MovesBy.any _).toWorksBy c.foresees_any (.any c.classifying) limit
    room tag call trivial trivial).imp (fun _ _ passed => passed.1.stack)
    fun _ _ failed => failed.1.stack

theorem ends_enter (limit : Nat) (tag : String) (call : Call σ) :
    Ends (enter c limit tag) call
      (fun _ t => tag ∉ call.session.stack ∧ call.session.stack.length < limit ∧
        t.session.stack = call.session.stack ++ [tag])
      (fun _ t => t.session.stack = call.session.stack) := by
  simp only [enter, ends_bind, ends_get]
  split
  next => exact (ends_throw _).mpr rfl
  next fresh =>
    split
    next => exact (ends_throw _).mpr rfl
    next room =>
      simp only [ends_bind, ends_onDesk, ends_noteInclude, ends_onSession, ends_modify, ends_pure]
      apply (ends_self _ _).imp
      · exact fun _ _ _ => ⟨fresh, Nat.lt_of_not_le room, rfl⟩
      · exact fun _ _ _ => trivial

end Call

namespace Moment

variable {σ : Type} {c : Compiler σ} {limit : Nat} {tag : String} {m t : Moment σ}

-- The stack grows from the tag that was asked for, by one new tag for every include that is being
-- run, and not beyond the limit.
structure Nested (limit : Nat) (tag : String) (m : Moment σ) : Prop where
  starts : m.stack.head? = some tag
  distinct : m.stack.Nodup
  bounded : m.stack.length ≤ limit
  levels : m.stack.length = m.outer.length + 1

theorem next_of_entered {call after : Call σ} {chain : Chain} (rest : List ChainEntry)
    (outer : List (List ChainEntry)) (entered : Call.enter c limit tag call = .ok chain after) :
    next c limit (.going call (.inclusion tag :: rest) outer) =
      some (.going after chain.entries (rest :: outer)) := by
  simp only [next, entered]

theorem next_of_refused {call after : Call σ} {e : Error} (rest : List ChainEntry)
    (outer : List (List ChainEntry)) (refused : Call.enter c limit tag call = .error e after) :
    next c limit (.going call (.inclusion tag :: rest) outer) = some (.raising e after outer) := by
  simp only [next, refused]

theorem Nested.of_same (nested : Nested limit tag m) (stack : t.stack = m.stack)
    (outer : t.outer = m.outer) : Nested limit tag t where
  starts := stack ▸ nested.starts
  distinct := stack ▸ nested.distinct
  bounded := stack ▸ nested.bounded
  levels := by rw [stack, outer, nested.levels]

theorem Nested.leave {rest : List ChainEntry} {outer : List (List ChainEntry)}
    (nested : Nested limit tag m) (within : m.outer = rest :: outer)
    (stack : t.stack = m.stack.dropLast) (outside : t.outer = outer) : Nested limit tag t := by
  have levels : m.stack.length = outer.length + 2 := by
    rw [nested.levels, within, List.length_cons]
  constructor
  · rw [stack, List.head?_dropLast, if_pos (by omega)]
    exact nested.starts
  · exact stack ▸ nested.distinct.sublist m.stack.dropLast_sublist
  · rw [stack, List.length_dropLast]
    exact (Nat.sub_le _ _).trans nested.bounded
  · rw [stack, outside, List.length_dropLast, levels]
    rfl

theorem Nested.enter {rest : List ChainEntry} {inner : String} (nested : Nested limit tag m)
    (fresh : inner ∉ m.stack) (room : m.stack.length < limit)
    (stack : t.stack = m.stack ++ [inner]) (outer : t.outer = rest :: m.outer) :
    Nested limit tag t where
  starts := by rw [stack, List.head?_append, nested.starts]; rfl
  distinct := stack ▸ Compiler.nodup_concat nested.distinct fresh
  bounded := by
    rw [stack, List.length_append]
    exact room
  levels := by simp [stack, outer, nested.levels]

theorem resume_of_ends {act : Action (Call σ) Unit} {call : Call σ} {stack : List String}
    (ends : EndsIn act call (fun t => t.session.stack = stack))
    (rest : List ChainEntry) (outer : List (List ChainEntry)) :
    (resume (act call) rest outer).stack = stack ∧
      (resume (act call) rest outer).outer = outer := by
  cases ran : act call with
  | ok _ t => exact ⟨ends.of_ok ran, rfl⟩
  | error e t => exact ⟨ends.of_error ran, rfl⟩

theorem Nested.next (nested : Nested limit tag m) (step : m.next c limit = some t) :
    Nested limit tag t := by
  cases m with
  | going call entries outer =>
    cases entries with
    | nil =>
      cases outer with
      | nil => cases step
      | cons rest outer =>
        cases step
        exact nested.leave rfl rfl rfl
    | cons entry rest =>
      cases entry with
      | statement s =>
        cases step
        obtain ⟨stack, outside⟩ := resume_of_ends (Call.ends_runStatement_stack s call) rest outer
        exact nested.of_same stack outside
      | inclusion inner =>
        have ends : Ends (Call.enter c limit inner) call _ _ := Call.ends_enter limit inner call
        cases entered : Call.enter c limit inner call with
        | ok chain after =>
          rw [next_of_entered rest outer entered] at step
          cases step
          obtain ⟨fresh, room, stack⟩ := ends.of_ok entered
          exact nested.enter fresh room stack rfl
        | error e after =>
          rw [next_of_refused rest outer entered] at step
          cases step
          exact nested.of_same (ends.of_error entered) rfl
  | raising e call outer =>
    cases outer with
    | nil => cases step
    | cons rest outer =>
      cases step
      exact nested.leave rfl rfl rfl

theorem Nested.reaches (nested : Nested limit tag m) (reached : Reaches (Moment.next c limit) m t) :
    Nested limit tag t := by
  induction reached with
  | refl => exact nested
  | tail _ step ih => exact ih.next step

theorem reaches_runEntries {runTag : String → Action (Call σ) Unit} (outer : List (List ChainEntry))
    (entries : List ChainEntry) (call : Call σ)
    (each : ∀ inner t rest, t.session.stack = call.session.stack →
      Reaches (next c limit) (.going t (.inclusion inner :: rest) outer)
          (resume (runTag inner t) rest outer) ∧
        (resume (runTag inner t) rest outer).stack = t.session.stack) :
    Reaches (next c limit) (.going call entries outer)
      (resume (Call.runEntries c.connection runTag entries call) [] outer) := by
  induction entries generalizing call with
  | nil => exact .refl
  | cons entry rest ih =>
    cases entry with
    | statement s =>
      have stack := (resume_of_ends (Call.ends_runStatement_stack (c := c) s call) rest outer).1
      have step : next c limit (.going call (.statement s :: rest) outer) =
          some (resume (Call.runStatement c.connection s call) rest outer) := rfl
      simp only [Call.runEntries, bind, EStateM.bind]
      cases ran : Call.runStatement c.connection s call with
      | ok _ t =>
        rw [ran] at step stack
        exact .head step (ih t fun inner u rest same => each inner u rest (same.trans stack))
      | error e t =>
        rw [ran] at step
        exact .single step
    | inclusion inner =>
      obtain ⟨reached, stack⟩ := each inner call rest rfl
      simp only [Call.runEntries, bind, EStateM.bind]
      cases ran : runTag inner call with
      | ok _ t =>
        rw [ran] at reached stack
        exact reached.trans
          (ih t fun inner u rest same => each inner u rest (same.trans stack))
      | error e t =>
        rw [ran] at reached
        exact reached

end Moment

namespace Call

variable {σ : Type} {c : Compiler σ} {limit room : Nat}

theorem runInclude_apply (tag : String) (call : Call σ)
    (fits : call.session.stack.length + room = limit) :
    runInclude c limit room tag call =
      (do
        let chain ← enter c limit tag
        (runEntries c.connection (runInclude c limit (room - 1)) chain.entries).andThen leave :
          Action (Call σ) Unit) call := by
  cases room with
  | zero =>
    have full : limit ≤ call.session.stack.length := by omega
    simp only [runInclude, enter, bind_assoc, get_bind_apply, if_pos full]
    split <;> rfl
  | succ room =>
    have free : ¬ limit ≤ call.session.stack.length := by omega
    simp only [runInclude, enter, bind_assoc, get_bind_apply, if_neg free]
    split
    · rfl
    · simp only [within, bind_assoc, pure_bind]
      rfl

end Call

namespace Moment

variable {σ : Type} {c : Compiler σ} {limit : Nat}

theorem reaches_leave {call : Call σ} {act : Action (Call σ) Unit} {entries rest : List ChainEntry}
    {outer : List (List ChainEntry)}
    (reached : Reaches (next c limit) (.going call entries (rest :: outer))
      (resume (act call) [] (rest :: outer))) :
    Reaches (next c limit) (.going call entries (rest :: outer))
      (resume (act.andThen Call.leave call) rest outer) := by
  unfold Action.andThen
  cases ran : act call with
  | ok _ t =>
    rw [ran] at reached
    exact reached.tail rfl
  | error e t =>
    rw [ran] at reached
    exact reached.tail rfl

theorem reaches_include {room : Nat} {call : Call σ} (tag : String) (rest : List ChainEntry)
    (outer : List (List ChainEntry)) (fits : call.session.stack.length + room = limit)
    (inner : call.session.stack.length < limit → ∀ tag t rest outer,
      t.session.stack.length = call.session.stack.length + 1 →
      Reaches (next c limit) (.going t (.inclusion tag :: rest) outer)
        (resume (Call.runInclude c limit (room - 1) tag t) rest outer)) :
    Reaches (next c limit) (.going call (.inclusion tag :: rest) outer)
      (resume (Call.runInclude c limit room tag call) rest outer) := by
  have ends : Ends (Call.enter c limit tag) call _ _ := Call.ends_enter limit tag call
  simp only [Call.runInclude_apply tag call fits, bind, EStateM.bind]
  cases entered : Call.enter c limit tag call with
  | error e t => exact .single (next_of_refused rest outer entered)
  | ok chain t =>
    obtain ⟨-, free, stack⟩ := ends.of_ok entered
    refine .head (next_of_entered rest outer entered)
      (reaches_leave (reaches_runEntries _ _ t fun tag u rest same => ?_))
    refine ⟨inner free tag u rest _ ?_, ?_⟩
    · rw [same, stack, List.length_append]
      rfl
    · exact (resume_of_ends (Call.ends_runInclude_stack limit _ tag u) rest _).1

-- By induction on how many tags the stack may still grow by.
theorem reaches_runInclude (room : Nat) (tag : String) (call : Call σ) (rest : List ChainEntry)
    (outer : List (List ChainEntry)) (fits : call.session.stack.length + room = limit) :
    Reaches (next c limit) (.going call (.inclusion tag :: rest) outer)
      (resume (Call.runInclude c limit room tag call) rest outer) := by
  induction room generalizing tag call rest outer with
  | zero => exact reaches_include tag rest outer fits fun free => absurd fits (by omega)
  | succ room ih =>
    exact reaches_include tag rest outer fits fun _ tag t rest outer deeper =>
      ih tag t rest outer (by omega)

theorem reaches_runChain {call : Call σ} (chain : Chain)
    (fits : call.session.stack.length + (limit - 1) = limit) :
    Reaches (next c limit) (.going call chain.entries [])
      (resume (Call.runChain c limit chain call) [] []) := by
  refine reaches_runEntries [] chain.entries call fun tag t rest same => ⟨?_, ?_⟩
  · exact reaches_runInclude _ tag t rest [] (same ▸ fits)
  · exact (resume_of_ends (Call.ends_runInclude_stack limit _ tag t) rest _).1

-- How an include is met: one that would close a cycle or go too deep fails at once, and every one
-- is over some time, with the stack that it was met with.
structure Guarded (c : Compiler σ) (limit : Nat) (m : Moment σ) : Prop where
  cyclic : ∀ {call inner rest outer}, m = .going call (.inclusion inner :: rest) outer →
    inner ∈ m.stack →
    m.next c limit = some (.raising (.includeCycle (m.stack ++ [inner])) call outer)
  deep : ∀ {call inner rest outer}, m = .going call (.inclusion inner :: rest) outer →
    inner ∉ m.stack → m.stack.length = limit →
    m.next c limit = some (.raising (.includeDepth limit (m.stack ++ [inner])) call outer)
  ends : ∀ {call inner rest outer}, m = .going call (.inclusion inner :: rest) outer →
    let ended := resume (Call.runInclude c limit (limit - m.stack.length) inner call) rest outer
    Reaches (next c limit) m ended ∧ ended.stack = m.stack

theorem Nested.guarded {tag : String} {m : Moment σ} (nested : Nested limit tag m) :
    Guarded c limit m where
  cyclic := by
    rintro call inner rest outer rfl member
    apply next_of_refused
    have member : inner ∈ call.session.stack := member
    simp only [Call.enter, get_bind_apply, if_pos member]
    rfl
  deep := by
    rintro call inner rest outer rfl fresh full
    apply next_of_refused
    have fresh : inner ∉ call.session.stack := fresh
    have full : limit ≤ call.session.stack.length := full.ge
    simp only [Call.enter, get_bind_apply, if_neg fresh, if_pos full]
    rfl
  ends := by
    rintro call inner rest outer rfl
    constructor
    · exact reaches_runInclude _ inner call rest outer (Nat.add_sub_cancel' nested.bounded)
    · exact (resume_of_ends (Call.ends_runInclude_stack limit _ inner call) rest outer).1

end Moment

namespace Turn

variable {σ : Type} {setup : Setup σ}

def begin (turn : Turn σ) (tag : String) (chain : Chain) : Moment σ :=
  .going ⟨turn.toDesk, turn.data, .start tag⟩ chain.entries []

def came (turn : Turn σ) : Moment σ → Attempt σ
  | .going call _ _ =>
    .completed call.session.affected { turn with toDesk := call.toDesk, data := call.data }
  | .raising e call _ => .failed e { turn with toDesk := call.toDesk, data := call.data }

theorem nested_begin (positive : 1 ≤ setup.maxDepth) (turn : Turn σ) (tag : String)
    (chain : Chain) : (turn.begin tag chain).Nested setup.maxDepth tag where
  starts := rfl
  distinct := List.pairwise_singleton ..
  bounded := positive
  levels := rfl

theorem mem_eval_begin (positive : 1 ≤ setup.maxDepth) (turn : Turn σ) (tag : String)
    (chain : Chain) :
    ∃ last ∈ eval (Moment.next (setup.compiler turn.library) setup.maxDepth)
        (turn.begin tag chain),
      turn.came last =
        match runChain setup tag chain turn with
        | .ok affected t => .completed affected t
        | .error e t => .failed e t := by
  have fits : (Session.start tag).stack.length + (setup.maxDepth - 1) = setup.maxDepth :=
    Nat.add_sub_cancel' positive
  refine ⟨_, mem_eval.mpr ⟨Moment.reaches_runChain chain fits, ?_⟩, ?_⟩
  · cases Call.runChain (setup.compiler turn.library) setup.maxDepth chain
      ⟨turn.toDesk, turn.data, .start tag⟩ <;> rfl
  · unfold runChain
    cases Call.runChain (setup.compiler turn.library) setup.maxDepth chain
      ⟨turn.toDesk, turn.data, .start tag⟩ <;> rfl

theorem library_of_get {tag : String} {chain : Chain} {turn t : Turn σ}
    (got : onBook (Book.get setup tag) turn = .ok chain t) : t.library = turn.library := by
  have gets := Book.ends_get (m := (setup.compiler turn.library).classifying)
    (Compiler.foresees_any _) tag trivial (rfl : turn.toBook.library = turn.library)
  have ends : Ends (onBook (Book.get setup tag)) turn (fun _ t => t.library = turn.library)
      (fun _ _ => True) := by
    rw [ends_onBook]
    exact gets.imp (fun _ _ ended => ended.2.1.library) fun _ _ _ => trivial
  exact ends.of_ok got

/-- The run of a chain ends, and the execution is its last moment, settled. The includes are what is
proved to end here: that the rows of a single result do is assumed of every connection, by
`Connection.rowsLeft_fetch`. -/
theorem execute_ends (positive : 1 ≤ setup.maxDepth) (tag : String) (turn : Turn σ) :
    match onBook (Book.get setup tag) turn with
    | .error e t => execute setup tag turn = .error e t
    | .ok chain t =>
      let next := Moment.next (setup.compiler turn.library) setup.maxDepth
      let start := (t.noted ("EXECUTE " ++ tag) tag).begin tag chain
      (∃ last ∈ eval next start, execute setup tag turn = settle setup tag (t.came last)) ∧
      ∀ m, Reaches next start m →
        m.Nested setup.maxDepth tag ∧ m.Guarded (setup.compiler turn.library) setup.maxDepth := by
  rw [execute_eq, attempt]
  cases got : onBook (Book.get setup tag) turn with
  | error e t => rfl
  | ok chain t =>
    rw [← library_of_get got]
    constructor
    · obtain ⟨last, ended, came⟩ :=
        mem_eval_begin positive (t.noted ("EXECUTE " ++ tag) tag) tag chain
      refine ⟨last, ended, congrArg (settle setup tag) (Eq.trans ?_ came.symm)⟩
      simp only
      cases runChain setup tag chain (t.noted ("EXECUTE " ++ tag) tag) <;> rfl
    · intro m reached
      have nested := (nested_begin positive _ tag chain).reaches reached
      exact ⟨nested, nested.guarded⟩

-- Two tags whose cached chains include each other.
def loopedTurn : Turn Nat where
  cache := [("chicken", ⟨.tag "chicken", some 1, some ⟨"chicken", [.inclusion "egg"]⟩⟩),
    ("egg", ⟨.tag "egg", some 2, some ⟨"egg", [.inclusion "chicken"]⟩⟩)]
  journal := []
  conn := 0
  library := ⟨.memory (.ofList [("chicken", "include egg"), ("egg", "include chicken")]), .empty⟩
  connected := true
  autocommit := true
  data := []

theorem execute_looped_ends :
    1 ≤ Book.limitedSetup.maxDepth ∧
    match onBook (Book.get Book.limitedSetup "chicken") loopedTurn with
    | .error e t => execute Book.limitedSetup "chicken" loopedTurn = .error e t
    | .ok chain t =>
      let next := Moment.next (Book.limitedSetup.compiler loopedTurn.library) 8
      let start := (t.noted "EXECUTE chicken" "chicken").begin "chicken" chain
      (∃ last ∈ eval next start, execute Book.limitedSetup "chicken" loopedTurn =
        settle Book.limitedSetup "chicken" (t.came last)) ∧
      ∀ m, Reaches next start m →
        m.Nested 8 "chicken" ∧ m.Guarded (Book.limitedSetup.compiler loopedTurn.library) 8 :=
  ⟨by decide, execute_ends (by decide) "chicken" loopedTurn⟩

end Turn

end QueryBook
