import QueryBook.Connection.Basic

set_option autoImplicit false

namespace QueryBook

-- The marker style of a driver that declares a parameter style; `module` names the driver.
def MarkerStyle.ofDeclared (module : String) (declared : Option String) :
    Except Error MarkerStyle :=
  match declared with
  | some "qmark" => .ok .question
  | some "numeric" => .ok .colon
  | some "format" => .ok .percent
  | some "pyformat" => .ok .percent
  | _ => .error (.noMarkerStyle module declared)

structure CursorDriver (σ : Type) where
  cursor : Request σ Nat
  execute : Nat → String → List Value → Request σ (Option Int)
  labels : Nat → Request σ (List String)
  fetch : Nat → Request σ (Option (List Value))
  closeCursor : Nat → Request σ Unit
  commit : Request σ Unit
  rollback : Request σ Unit
  close : Request σ Unit
  rowsLeft : Nat → σ → Nat
  rowsLeft_fetch : ∀ {c s row t}, fetch c s = .ok (some row) t → rowsLeft c t < rowsLeft c s
  rowsLeft_labels : ∀ {c s ls t}, labels c s = .ok ls t → rowsLeft c t = rowsLeft c s

structure Cursors (σ : Type) where
  driver : σ
  prepared : List Nat

namespace Cursors

variable {σ α : Type}

def ask (request : Request σ α) : Request (Cursors σ) α := fun s =>
  match request s.driver with
  | .ok a driver => .ok a { s with driver }
  | .error fault driver => .error fault { s with driver }

def withCursor (driver : CursorDriver σ) (use : Nat → Request σ α) : Request σ α := do
  let c ← driver.cursor
  fun s =>
    match use c s with
    | .ok a t => (driver.closeCursor c *> pure a) t
    | .error fault t => (driver.closeCursor c *> throw fault) t

def explain (driver : CursorDriver σ) (sql : String) (parameters : Nat) : Request σ Unit :=
  withCursor driver fun c => do
    let _ ← driver.execute c ("EXPLAIN " ++ sql) (List.replicate parameters .null)

def prepare (driver : CursorDriver σ) (validate : Bool) (sql : String) (parameters : Nat) :
    Request (Cursors σ) Handle := do
  if validate then
    ask (explain driver sql parameters)
  let c ← ask driver.cursor
  modify fun s => { s with prepared := s.prepared ++ [c] }
  pure ⟨c, sql⟩

def close (driver : CursorDriver σ) : Request (Cursors σ) Unit := fun s =>
  let closed := s.prepared.foldl
    (fun state c =>
      match driver.closeCursor c state with
      | .ok _ t => t
      | .error _ t => t) s.driver
  ask driver.close ⟨closed, []⟩

-- The next row under its labels; the shorter of the two ends the row.
def fetch (driver : CursorDriver σ) (c : Nat) : Request σ (Option Fields) := fun s =>
  match driver.fetch c s with
  | .error fault t => .error fault t
  | .ok none t => .ok none t
  | .ok (some cells) t =>
    match driver.labels c t with
    | .error fault u => .error fault u
    | .ok labels u => .ok (some (Keyed.ofList (labels.zip cells))) u

theorem rowsLeft_fetch (driver : CursorDriver σ) {c : Nat} {s t : σ} {row : Fields}
    (fetched : fetch driver c s = .ok (some row) t) :
    driver.rowsLeft c t < driver.rowsLeft c s := by
  unfold fetch at fetched
  split at fetched
  · simp at fetched
  · simp at fetched
  next cells t' found =>
    split at fetched
    · simp at fetched
    next labels u named =>
      simp only [EStateM.Result.ok.injEq] at fetched
      obtain ⟨_, rfl⟩ := fetched
      rw [driver.rowsLeft_labels named]
      exact driver.rowsLeft_fetch found

theorem ask_eq_ok {request : Request σ α} {s t : Cursors σ} {a : α}
    (asked : ask request s = .ok a t) : request s.driver = .ok a t.driver := by
  unfold ask at asked
  split at asked
  next found =>
    simp only [EStateM.Result.ok.injEq] at asked
    obtain ⟨rfl, rfl⟩ := asked
    exact found
  next => simp at asked

-- A count of rows that makes sense; drivers give a negative one when they do not know it.
def knownCount : Option Int → Int
  | some count => max count 0
  | none => 0

def connection (driver : CursorDriver σ) (style : MarkerStyle) (validate : Bool) :
    Connection (Cursors σ) where
  style
  prepare := prepare driver validate
  execute := fun h values => do
    let count ← ask (driver.execute h.id h.sql values)
    pure (some (knownCount count))
  describe := fun h => ask (driver.labels h.id)
  fetch := fun h => ask (fetch driver h.id)
  commit := ask driver.commit
  rollback := ask driver.rollback
  close := close driver
  rowsLeft := fun h s => driver.rowsLeft h.id s.driver
  rowsLeft_fetch := fun fetched => rowsLeft_fetch driver (ask_eq_ok fetched)

end Cursors

end QueryBook
