import QueryBook.CommandLine.Invocation
import QueryBook.CommandLine.Run
import QueryBook.CommandLine.Screen
import QueryBook.Proofs.Validating
import QueryBook.Proofs.Watching

set_option autoImplicit false

namespace QueryBook

open QueryBook.Action Connection

def Compiler.Obtains {σ : Type} (c : Compiler σ) (tag : String) (desk : Desk σ) : Prop :=
  ∃ chain t, c.get tag desk = .ok chain t

-- Calls about cursors, and a rollback after them when the chain of the tag was obtained.
def Settled (obtained : Prop) (before after : List DriverCall) : Prop :=
  ∃ worked, Grows DriverCall.isWork before worked ∧
    (obtained ∧ after = worked ++ [.rollback] ∨ ¬ obtained ∧ after = worked)

def Closed (Done : List DriverCall → Prop) (calls : List DriverCall) : Prop :=
  ∃ used, Done used ∧
    ∃ cursors, Grows DriverCall.closesCursor used cursors ∧ calls = cursors ++ [.close]

section Delayed

variable {σ : Type} {setup : Setup (Cursors (Watched σ))}

theorem Book.ends_rollback_watched (watches : Cursors.Watches setup.connection)
    {book : Book (Cursors (Watched σ))} (connected : book.connected = true) :
    EndsIn (rollback setup) book fun t =>
      t.connected = true ∧ t.conn.calls = book.conn.calls ++ [.rollback] := by
  simp only [EndsIn, rollback, ends_bind, ends_note, ends_ensureConnected, connected, if_true,
    ends_ask]
  exact (watches.rollback book.conn).mono fun _ same => ⟨trivial, same⟩

theorem Book.ends_disconnect_watched (watches : Cursors.Watches setup.connection)
    {book : Book (Cursors (Watched σ))} (connected : book.connected = true) :
    EndsIn (disconnect setup) book fun t =>
      ∃ cursors, Grows DriverCall.closesCursor book.conn.calls cursors ∧
        t.conn.calls = cursors ++ [.close] := by
  simp only [EndsIn, disconnect, ends_bind, Action.ends_get, ends_modify, ends_onCatalog,
    Catalog.clear, connected, if_true, ends_note, ends_ask]
  exact watches.close book.conn

namespace Turn

theorem ends_abandon_watched (watches : Cursors.Watches setup.connection) (tag : String) (e : Error)
    {turn : Turn (Cursors (Watched σ))} (connected : turn.connected = true) :
    Ends (abandon setup tag e : Action _ Int) turn (fun _ _ => False)
      (fun _ t => t.connected = true ∧ t.conn.calls = turn.conn.calls ++ [.rollback]) := by
  rw [ends_abandon]
  exact Book.ends_rollback_watched watches connected

theorem ends_execute_delayed (watches : Cursors.Watches setup.connection) (tag : String)
    {turn : Turn (Cursors (Watched σ))} (connected : turn.connected = true)
    (delayed : turn.autocommit = false) :
    Ends (execute setup tag) turn
      (fun _ t => t.connected = true ∧ (setup.compiler turn.library).Obtains tag turn.toDesk ∧
        Grows DriverCall.isWork turn.conn.calls t.conn.calls)
      (fun _ t => t.connected = true ∧
        Settled ((setup.compiler turn.library).Obtains tag turn.toDesk) turn.conn.calls
          t.conn.calls) := by
  let m : (setup.compiler turn.library).Making :=
    .ofMoves _ Cursors.Worked watches.refl watches.trans watches.prepare
  simp only [execute, Book.get, ends_bind, ends_onBook, Book.ends_ensureConnected, connected,
    if_true, Book.ends_library?, Book.ends_onDesk, Book.ends_noteTag, ends_rescue]
  apply ((ends_self _ turn.toDesk).and
    (Compiler.ends_get m (Compiler.foresees_any _) tag trivial turn.toDesk)).imp
  · intro chain desk ended
    obtain ⟨got, steps, counts⟩ := ended
    have obtained : (setup.compiler turn.library).Obtains tag turn.toDesk := ⟨chain, desk, got⟩
    refine Ends.imp (ends_runChain_advances watches.toWorksBy (Compiler.foresees_any _) (.any m) _
      rfl trivial trivial counts) ?_ ?_
    · intro affected t ended
      obtain ⟨advanced, -⟩ := ended
      have still : t.autocommit = false := advanced.autocommit.trans delayed
      rw [Action.ends_get, if_neg (by simp [still]), ends_pure]
      exact ⟨advanced.connected, obtained, steps.moves.trans advanced.steps.moves⟩
    · intro e t failed
      obtain ⟨advanced, -⟩ := failed
      have worked := steps.moves.trans advanced.steps.moves
      apply (ends_abandon_watched watches tag e advanced.connected).imp
      · exact fun _ _ answered => answered.elim
      · exact fun _ _ rolled => ⟨rolled.1, _, worked, .inl ⟨obtained, rolled.2⟩⟩
  · intro e desk failed
    obtain ⟨unobtained, steps, -⟩ := failed
    refine ⟨trivial, _, steps.moves, .inr ⟨?_, rfl⟩⟩
    intro obtained
    obtain ⟨chain, t, got⟩ := obtained
    rw [got] at unobtained
    cases unobtained

end Turn

end Delayed

namespace CommandLine

namespace Terminal

section Rules

variable {σ α : Type} {terminal : Terminal σ} {good : α → Terminal σ → Prop}
  {bad : Error → Terminal σ → Prop}

@[simp] theorem ends_onTurn (act : Action (Turn σ) α) :
    Ends (onTurn act) terminal good bad ↔
      Ends act terminal.toTurn (fun a turn => good a { terminal with toTurn := turn })
        (fun e turn => bad e { terminal with toTurn := turn }) := by
  simp only [onTurn, ends_focus]

@[simp] theorem ends_onBook (act : Action (Book σ) α) :
    Ends (onBook act) terminal good bad ↔
      Ends act terminal.toBook (fun a book => good a { terminal with toBook := book })
        (fun e book => bad e { terminal with toBook := book }) := by
  simp only [onBook, ends_onTurn, Turn.ends_onBook]

@[simp] theorem ends_print {good : Unit → Terminal σ → Prop} (line : String) :
    Ends (print line) terminal good bad ↔
      good () { terminal with output := terminal.output ++ line ++ "\n" } := by
  simp only [print, ends_modify]

theorem ends_forM_print (lines : List String) (terminal : Terminal σ) :
    EndsIn (lines.forM print) terminal fun t => ∃ output, t = { terminal with output } := by
  induction lines generalizing terminal with
  | nil => exact ⟨terminal.output, rfl⟩
  | cons line rest ih =>
    change EndsIn (print line >>= fun _ => rest.forM print) terminal _
    simp only [EndsIn, ends_bind, ends_print]
    exact (ih _).mono fun _ printed => printed

-- Whatever is shown, and also when it cannot be shown, only the output is another one.
theorem ends_printLines {good : Unit → Terminal σ → Prop} (lines : Except Error (List String))
    (printed : ∀ output, good () { terminal with output })
    (unprinted : ∀ e output, bad e { terminal with output }) :
    Ends (printLines lines) terminal good bad := by
  simp only [printLines, ends_bind, ends_ofExcept]
  cases lines with
  | error e => exact unprinted e terminal.output
  | ok lines =>
    apply (ends_forM_print lines terminal).imp
    · rintro _ _ ⟨output, rfl⟩
      exact printed output
    · rintro e _ ⟨output, rfl⟩
      exact unprinted e output

theorem ends_attempt {good : Option α → Terminal σ → Prop} {screen : Screen}
    {what tag : String} {act : Action (Terminal σ) α}
    (ends : Ends act terminal (fun a t => good (some a) t)
      (fun _ t => ∀ output, good none { t with output } ∧ ∀ e, bad e { t with output })) :
    Ends (attempt screen what tag act) terminal good bad := by
  simp only [attempt, ends_rescue, ends_map]
  apply ends.imp
  · exact fun _ _ answered => answered
  · intro e t failed
    split
    · simp only [ends_bind, ends_throw]
      exact (failed t.output).2 e
    · simp only [ends_bind, ends_pure]
      exact ends_printLines _ (fun output => (failed output).1) fun e output => (failed output).2 e

end Rules

variable {σ α : Type} {setup : Setup (Cursors (Watched σ))}
  {terminal : Terminal (Cursors (Watched σ))}

theorem ends_withBook_watched (watches : Cursors.Watches setup.connection)
    {use : Action (Terminal (Cursors (Watched σ))) α} (Done : List DriverCall → Prop)
    (ends : EndsIn use terminal fun t => t.connected = true ∧ Done t.conn.calls) :
    EndsIn (withBook setup use) terminal fun t => Closed Done t.conn.calls := by
  simp only [EndsIn, withBook, ends_endingWith, ends_onBook]
  have closes {t : Terminal (Cursors (Watched σ))}
      (ended : t.connected = true ∧ Done t.conn.calls) :
      EndsIn (Book.disconnect setup) t.toBook fun book => Closed Done book.conn.calls := by
    apply (Book.ends_disconnect_watched watches ended.1).mono
    intro book closed
    exact ⟨_, ended.2, closed⟩
  exact ends.imp (fun _ _ => closes) fun _ _ => closes

theorem ends_execute_uncommitted (watches : Cursors.Watches setup.connection) (screen : Screen)
    (tag : String) (connected : terminal.connected = true) :
    EndsIn (execute setup screen tag false) terminal fun t =>
      Closed (Settled ((setup.compiler terminal.library).Obtains tag terminal.toDesk)
        terminal.conn.calls) t.conn.calls := by
  unfold execute
  simp only [EndsIn, ends_bind]
  refine Ends.imp (ends_withBook_watched watches (Settled
    ((setup.compiler terminal.library).Obtains tag terminal.toDesk) terminal.conn.calls) ?_) ?_ ?_
  · simp only [EndsIn, Bool.not_false, Bool.and_true, if_true, ends_bind, ends_onBook,
      Book.setAutocommit, ends_modify]
    apply ends_attempt
    rw [ends_onTurn]
    refine Ends.imp (Turn.ends_execute_delayed watches tag ?_ ?_) ?_ ?_
    · exact connected
    · rfl
    · intro affected t ended
      obtain ⟨connected', obtained, worked⟩ := ended
      simp only [Option.isSome_some, if_true, ends_bind, ends_onBook, ends_pure]
      have settled {book : Book (Cursors (Watched σ))}
          (rolled : book.connected = true ∧ book.conn.calls = t.conn.calls ++ [.rollback]) :
          book.connected = true ∧ Settled ((setup.compiler terminal.library).Obtains tag
            terminal.toDesk) terminal.conn.calls book.conn.calls :=
        ⟨rolled.1, _, worked, .inl ⟨obtained, rolled.2⟩⟩
      apply (Book.ends_rollback_watched watches connected').imp
      · intro _ book rolled
        exact ends_printLines _ (fun _ => settled rolled) fun _ _ => settled rolled
      · exact fun _ _ => settled
    · exact fun _ _ failed _ => ⟨failed, fun _ => failed⟩
  · intro affected t closed
    cases affected with
    | none => exact closed
    | some affected =>
      simp only [ends_bind, Action.ends_get, ends_pure]
      apply ends_printLines
      · intro output
        exact ends_printLines _ (fun _ => closed) fun _ _ => closed
      · exact fun _ _ => closed
  · exact fun _ _ closed => closed

end Terminal

-- A run has changed nothing for good: it has not committed, it has rolled back after everything
-- that it executed if there was a chain, and it has closed the connection in the end.
structure TakenBack (obtained : Prop) (calls : List DriverCall) : Prop where
  uncommitted : .commit ∉ calls
  rolledBack : obtained → ∃ before after, calls = before ++ .rollback :: after ∧
    .rollback ∉ before ++ after ∧ ∀ q ∈ after, q.isExecute = false
  untouched : ¬ obtained → .rollback ∉ calls
  closed : ∃ before, calls = before ++ [.close] ∧ .close ∉ before

theorem takenBack_of_closed {obtained : Prop} {calls : List DriverCall}
    (closed : Closed (Settled obtained []) calls) : TakenBack obtained calls := by
  obtain ⟨used, ⟨worked, ⟨work, same, works⟩, settled⟩, cursors, ⟨closing, rfl, closes⟩, rfl⟩ :=
    closed
  rw [List.nil_append] at same
  subst same
  have unworked {q : DriverCall} (other : q.isWork = false) : q ∉ worked := by
    intro member
    simp [works q member] at other
  have unclosing {q : DriverCall} (other : q.closesCursor = false) : q ∉ closing := by
    intro member
    simp [closes q member] at other
  have idle : ∀ q ∈ closing ++ [.close], q.isExecute = false := by
    intro q member
    rcases List.mem_append.mp member with member | member
    · have closesCursor := closes q member
      cases q with
      | closeCursor c => rfl
      | _ => cases closesCursor
    · rw [List.mem_singleton.mp member]
      rfl
  have uncommitted : .commit ∉ worked ∧ .commit ∉ closing := ⟨unworked rfl, unclosing rfl⟩
  have unrolled : .rollback ∉ worked ∧ .rollback ∉ closing := ⟨unworked rfl, unclosing rfl⟩
  have unclosed : .close ∉ worked ∧ .close ∉ closing := ⟨unworked rfl, unclosing rfl⟩
  rcases settled with ⟨obtained, rfl⟩ | ⟨unobtained, rfl⟩
  · exact {
      uncommitted := by simpa using uncommitted
      rolledBack := fun _ =>
        ⟨worked, closing ++ [.close], by simp, by simpa using unrolled, idle⟩
      untouched := fun unobtained => absurd obtained unobtained
      closed := ⟨_, rfl, by simpa using unclosed⟩ }
  · exact {
      uncommitted := by simpa using uncommitted
      rolledBack := fun obtained => absurd obtained unobtained
      untouched := fun _ => by simpa using unrolled
      closed := ⟨_, rfl, by simpa using unclosed⟩ }

namespace Machine

variable {σ : Type}

def watched (m : Machine σ) : Machine (Watched σ) where
  environment := m.environment
  files := m.files
  driver := m.driver.watched
  connect := fun database => CursorDriver.watch [] (m.connect database)
  parse := m.parse
  reader := m.reader
  screen := m.screen

def Obtains (m : Machine σ) (place : Place) (settings : Settings) (tag : String)
    (link : Link σ) : Prop :=
  ((settings.setup m.parse (settings.databaseConnection m.driver)).compiler
    ⟨place.shelf settings, m.files⟩).Obtains tag ⟨⟨[], link.journal⟩, ⟨link.conn, []⟩⟩

def terminal (m : Machine σ) (place : Place) (settings : Settings) (data : Fields)
    (link : Link σ) : Terminal (Cursors σ) where
  toBook := settings.book ⟨place.shelf settings, m.files⟩ ⟨⟨link.conn, []⟩, link.journal⟩
  data := data
  output := ""

theorem state_of_command {m : Machine σ} (place : Place) {settings : Settings} (log : Log.State)
    (command : Command) (data : Fields) {s : σ} {link : Link σ}
    (opened : (settings.connect m.connect).outcome ⟨s, []⟩ = (.ok (), link)) :
    (m.command place settings log command data s).state =
      ((Terminal.perform (settings.setup m.parse (settings.databaseConnection m.driver)) m.screen
        command).outcome (m.terminal place settings data link)).2.conn.driver := by
  simp only [Machine.command, opened, terminal]

theorem calls_of_opened {m : Machine σ} {settings : Settings} {s : σ} {link : Link (Watched σ)}
    (opened : (settings.connect m.watched.connect).outcome ⟨⟨s, []⟩, []⟩ = (.ok (), link)) :
    link.conn.calls = [] := by
  have silent : EndsIn (settings.connect m.watched.connect) ⟨⟨s, []⟩, []⟩
      fun link => link.conn.calls = [] := by
    simp only [EndsIn, Settings.connect, ends_bind, Link.note, ends_modify, Link.onConn, ends_focus,
      ends_request, watched, CursorDriver.ends_watch]
    exact (ends_self _ _).imp (fun _ _ _ => rfl) fun _ _ _ => rfl
  simpa only [opened] using silent.outcome

/-- However an execution without commits goes, and whatever the driver does on the connection that
has been opened: nothing is committed, what was done is rolled back once if there is a chain for the
tag, and closing the connection is the last call. -/
theorem takenBack_of_command (m : Machine σ) (place : Place) (settings : Settings)
    (log : Log.State) (tag : String) (text : Option String) (data : Fields) {s : σ}
    {link : Link (Watched σ)}
    (opened : (settings.connect m.watched.connect).outcome ⟨⟨s, []⟩, []⟩ = (.ok (), link)) :
    TakenBack (m.watched.Obtains place settings tag link)
      (m.watched.command place settings log (.execute tag text false) data ⟨s, []⟩).state.calls := by
  have watches : Cursors.Watches
      (settings.setup m.parse (settings.databaseConnection m.watched.driver)).connection :=
    Cursors.watches_connection m.driver .question settings.validate
  have connected : (m.watched.terminal place settings data link).connected = true := rfl
  have ends := Terminal.ends_execute_uncommitted watches m.screen tag connected
  rw [state_of_command place log _ data opened]
  apply takenBack_of_closed
  rw [← calls_of_opened opened]
  exact ends.outcome

def stuck : Machine Unit where
  environment := []
  -- The file has `DELETE FROM $t`.
  files := FileTree.empty.write ["sql", "t.sql"]
    [68, 69, 76, 69, 84, 69, 32, 70, 82, 79, 77, 32, 36, 116] 1
  driver := .stuck
  connect := fun _ => pure ()
  parse := fun _ _ => .other
  reader := .plain
  screen := .wide

def stuckPlace : Place where
  lib := ["sql"]
  extension := "sql"
  manyPerFile := false
  database := none
  validate := true
  trace := false
  logLevel := none
  logStyle := "structured"

def stuckSettings : Settings where
  lib := ["sql"]
  extension := "sql"
  autocommit := true
  allArrays := false
  database := ":memory:"
  style := none
  maxDepth := 32
  warnBareColumns := true
  dialect := none
  validate := true
  trace := false

def stuckLink : Link (Watched Unit) where
  conn := ⟨(), []⟩
  journal := [.debug "adapters.dbapi" "Connecting to sqlite database :memory:"]

theorem obtains_stuck : stuck.watched.Obtains stuckPlace stuckSettings "t" stuckLink := by
  let connection := stuckSettings.databaseConnection stuck.watched.driver
  let setup := stuckSettings.setup stuck.parse connection
  let c := setup.compiler ⟨stuckPlace.shelf stuckSettings, stuck.files⟩
  have single : c.library.template "t" = .ok "DELETE FROM $t" := rfl
  have ends := Compiler.ends_get_deletion single rfl rfl
    ⟨⟨[], stuckLink.journal⟩, ⟨stuckLink.conn, []⟩⟩ rfl
  exact ⟨_, (ends.imp (fun _ _ got => got.1) fun _ _ => id).exists_ok⟩

theorem takenBack_of_command_stuck :
    let command : Command := .execute "t" none false
    (stuckSettings.connect stuck.watched.connect).outcome ⟨⟨(), []⟩, []⟩ = (.ok (), stuckLink) ∧
    stuck.watched.Obtains stuckPlace stuckSettings "t" stuckLink ∧
    TakenBack (stuck.watched.Obtains stuckPlace stuckSettings "t" stuckLink)
      (stuck.watched.command stuckPlace stuckSettings .initial command [] ⟨(), []⟩).state.calls := by
  have opened : (stuckSettings.connect stuck.watched.connect).outcome ⟨⟨(), []⟩, []⟩ =
      (.ok (), stuckLink) := rfl
  exact ⟨opened, obtains_stuck, takenBack_of_command stuck stuckPlace stuckSettings .initial "t"
    none [] opened⟩

end Machine

end CommandLine

end QueryBook
