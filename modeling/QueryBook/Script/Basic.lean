import QueryBook.Connection.Cursor

set_option autoImplicit false

namespace QueryBook

structure ScriptedResult where
  labels : List String
  rows : List (Except Fault (List Value))
  rowCount : Int

structure Script where
  results : Keyed ScriptedResult
  rowCounts : Keyed (Option Int)
  prepareFaults : String → Option Fault
  executeFaults : String → Option Fault
  describeFaults : String → Option Fault
  connectFault : Option Fault
  cursorFault : Option Fault
  cursorCloseFault : Option Fault
  commitFault : Option Fault
  rollbackFault : Option Fault
  closeFault : Option Fault

def Script.empty : Script where
  results := []
  rowCounts := []
  prepareFaults := fun _ => none
  executeFaults := fun _ => none
  describeFaults := fun _ => none
  connectFault := none
  cursorFault := none
  cursorCloseFault := none
  commitFault := none
  rollbackFault := none
  closeFault := none

inductive Event where
  | connect (database : String)
  | prepare (sql : String) (parameters : Nat)
  | execute (sql : String) (parameters : List Value)
  | fetch
  | commit
  | rollback
  | close

structure ScriptedCursor where
  labels : List String
  rows : List (Except Fault (List Value))

namespace Script

structure State where
  script : Script
  cursors : List ScriptedCursor
  events : List Event

namespace State

def ofScript (script : Script) : State :=
  ⟨script, [], []⟩

def record (event : Event) : Request State Unit :=
  modify fun s => { s with events := s.events ++ [event] }

def raise (fault : Option Fault) : Request State Unit :=
  match fault with
  | some fault => throw fault
  | none => pure ()

-- Records an event, and raises what the script says about it.
def meet (event : Event) (fault : Script → Option Fault) : Request State Unit := do
  record event
  raise (fault (← get).script)

def newCursor : Request State Nat := fun s =>
  .ok s.cursors.length { s with cursors := s.cursors ++ [⟨[], []⟩] }

def connect (database : String) : Request State Unit :=
  meet (.connect database) Script.connectFault

def execute (c : Nat) (sql : String) (values : List Value) : Request State (Option Int) := do
  meet (.execute sql values) (·.executeFaults sql)
  let script := (← get).script
  match script.results.get? sql with
  | some result =>
    modify fun s => { s with cursors := s.cursors.set c ⟨result.labels, result.rows⟩ }
    pure (some result.rowCount)
  | none =>
    modify fun s => { s with cursors := s.cursors.set c ⟨[], []⟩ }
    pure ((script.rowCounts.get? sql).getD (some 1))

def nextRow (c : Nat) : Request State (Option (List String × List Value)) := fun s =>
  let s : State := { s with events := s.events ++ [.fetch] }
  match s.cursors[c]? with
  | some ⟨labels, row :: rest⟩ =>
    let t := { s with cursors := s.cursors.set c ⟨labels, rest⟩ }
    match row with
    | .ok cells => .ok (some (labels, cells)) t
    | .error fault => .error fault t
  | _ => .ok none s

def rowsLeft (c : Nat) (s : State) : Nat :=
  match s.cursors[c]? with
  | some cursor => cursor.rows.length
  | none => 0

theorem rowsLeft_nextRow {c : Nat} {s t : State} {row : List String × List Value}
    (fetched : nextRow c s = .ok (some row) t) : rowsLeft c t < rowsLeft c s := by
  simp only [nextRow] at fetched
  split at fetched
  next labels first rest found =>
    split at fetched
    next cells =>
      simp only [EStateM.Result.ok.injEq] at fetched
      obtain ⟨_, rfl⟩ := fetched
      obtain ⟨bound, held⟩ := List.getElem?_eq_some_iff.mp found
      simp [rowsLeft, bound, held]
    next => simp at fetched
  next => simp at fetched

def fetchAs {α : Type} (form : List String × List Value → α) (c : Nat) : Request State (Option α) :=
  fun s =>
    match nextRow c s with
    | .ok row t => .ok (row.map form) t
    | .error fault t => .error fault t

theorem rowsLeft_fetchAs {α : Type} {form : List String × List Value → α} {c : Nat} {s t : State}
    {a : α} (fetched : fetchAs form c s = .ok (some a) t) : rowsLeft c t < rowsLeft c s := by
  unfold fetchAs at fetched
  split at fetched
  next row t' found =>
    simp only [EStateM.Result.ok.injEq, Option.map_eq_some_iff] at fetched
    obtain ⟨⟨_, rfl, _⟩, rfl⟩ := fetched
    exact rowsLeft_nextRow found
  next => simp at fetched

def labels (c : Nat) : Request State (List String) := fun s =>
  .ok ((s.cursors[c]?.map (·.labels)).getD []) s

def describe (h : Handle) : Request State (List String) := do
  raise ((← get).script.describeFaults h.sql)
  labels h.id

def prepare (sql : String) (parameters : Nat) : Request State Handle := do
  meet (.prepare sql parameters) (·.prepareFaults sql)
  let c ← newCursor
  pure ⟨c, sql⟩

def openCursor : Request State Nat := do
  raise (← get).script.cursorFault
  newCursor

def closeCursor (_ : Nat) : Request State Unit := do
  raise (← get).script.cursorCloseFault

end State

def connection (style : MarkerStyle) : Connection State where
  style
  prepare := State.prepare
  execute := fun h values => State.execute h.id h.sql values
  describe := State.describe
  fetch := fun h => State.fetchAs (fun (labels, cells) => Keyed.ofList (labels.zip cells)) h.id
  commit := State.meet .commit Script.commitFault
  rollback := State.meet .rollback Script.rollbackFault
  close := State.meet .close Script.closeFault
  rowsLeft := fun h => State.rowsLeft h.id
  rowsLeft_fetch := State.rowsLeft_fetchAs

def driver : CursorDriver State where
  cursor := State.openCursor
  execute := State.execute
  labels := State.labels
  fetch := State.fetchAs fun (_, cells) => cells
  closeCursor := State.closeCursor
  commit := State.meet .commit Script.commitFault
  rollback := State.meet .rollback Script.rollbackFault
  close := State.meet .close Script.closeFault
  rowsLeft := State.rowsLeft
  rowsLeft_fetch := State.rowsLeft_fetchAs
  rowsLeft_labels := by
    intro c s ls t named
    simp only [State.labels, EStateM.Result.ok.injEq] at named
    rw [named.2]

end Script

end QueryBook
