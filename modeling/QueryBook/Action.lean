import QueryBook.Error.Basic

set_option autoImplicit false

namespace QueryBook

-- A computation on a state `σ` that may fail. What it has done to the state stays done when it
-- fails.
abbrev Action (σ α : Type) := EStateM Error σ α

abbrev Request (σ α : Type) := EStateM Fault σ α

namespace Action

variable {σ τ α β : Type}

def ofExcept : Except Error α → Action σ α
  | .ok a => pure a
  | .error e => throw e

def focus (part : σ → τ) (replace : σ → τ → σ) (act : Action τ α) : Action σ α := fun s =>
  match act (part s) with
  | .ok a t => .ok a (replace s t)
  | .error e t => .error e (replace s t)

def request (fault : Fault → Error) (act : Request σ α) : Action σ α := fun s =>
  match act s with
  | .ok a t => .ok a t
  | .error f t => .error (fault f) t

def mapError (change : Error → Error) (act : Action σ α) : Action σ α := fun s =>
  match act s with
  | .ok a t => .ok a t
  | .error e t => .error (change e) t

def rescue (act : Action σ α) (handler : Error → Action σ α) : Action σ α := fun s =>
  match act s with
  | .ok a t => .ok a t
  | .error e t => handler e t

def andThen (act : Action σ α) (change : σ → σ) : Action σ α := fun s =>
  match act s with
  | .ok a t => .ok a (change t)
  | .error e t => .error e (change t)

-- The same computation with another one after it, whether it fails or not. When both fail, it is
-- the error of the second that shows.
def endingWith (act : Action σ α) (last : Action σ Unit) : Action σ α := do
  let a ← act.rescue fun e => do
    last
    throw e
  last
  pure a

def outcome (act : Action σ α) (s : σ) : Except Error α × σ :=
  match act s with
  | .ok a t => (.ok a, t)
  | .error e t => (.error e, t)

end Action

end QueryBook
