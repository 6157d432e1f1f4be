import QueryBook.Connection.Cursor

set_option autoImplicit false

namespace QueryBook

def CursorDriver.offline : CursorDriver Unit where
  cursor := pure 0
  execute := fun _ _ _ => throw (.foreign "OperationalError" "no database is attached")
  labels := fun _ => pure []
  fetch := fun _ => pure none
  closeCursor := fun _ => pure ()
  commit := pure ()
  rollback := pure ()
  close := pure ()
  rowsLeft := fun _ _ => 0
  rowsLeft_fetch := fun fetched => by simp [pure, EStateM.pure] at fetched
  rowsLeft_labels := fun _ => rfl

end QueryBook
