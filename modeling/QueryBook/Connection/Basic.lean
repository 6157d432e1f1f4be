import QueryBook.Action
import QueryBook.Journal
import QueryBook.MarkerStyle

set_option autoImplicit false

namespace QueryBook

structure Handle where
  id : Nat
  sql : String
  deriving DecidableEq, Repr

structure Connection (σ : Type) where
  style : MarkerStyle
  prepare : String → Nat → Request σ Handle
  execute : Handle → List Value → Request σ (Option Int)
  describe : Handle → Request σ (List String)
  fetch : Handle → Request σ (Option Fields)
  commit : Request σ Unit
  rollback : Request σ Unit
  close : Request σ Unit
  -- A bound on the number of rows that can still be fetched: every result is assumed to be finite.
  rowsLeft : Handle → σ → Nat
  rowsLeft_fetch : ∀ {h s row t}, fetch h s = .ok (some row) t → rowsLeft h t < rowsLeft h s

namespace Connection

variable {σ : Type}

def fetchAll (conn : Connection σ) (h : Handle) : Request σ (List Fields) := fun s =>
  match found : conn.fetch h s with
  | .error fault t => .error fault t
  | .ok none t => .ok [] t
  | .ok (some row) t =>
    have := conn.rowsLeft_fetch found
    match fetchAll conn h t with
    | .error fault u => .error fault u
    | .ok rows u => .ok (row :: rows) u
termination_by s => conn.rowsLeft h s

def willing : Connection σ where
  style := .question
  prepare := fun sql _ => pure ⟨0, sql⟩
  execute := fun _ _ => pure none
  describe := fun _ => pure []
  fetch := fun _ => pure none
  commit := pure ()
  rollback := pure ()
  close := pure ()
  rowsLeft := fun _ _ => 0
  rowsLeft_fetch := fun fetched => by cases fetched

end Connection

structure Link (σ : Type) where
  conn : σ
  journal : Journal

namespace Link

variable {σ α : Type}

def onConn (act : Action σ α) : Action (Link σ) α :=
  Action.focus Link.conn (fun link conn => { link with conn }) act

def note (record : Record) : Action (Link σ) Unit :=
  modify fun link => { link with journal := link.journal ++ [record] }

end Link

end QueryBook
