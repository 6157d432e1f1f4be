import QueryBook.Connection.Offline
import QueryBook.Proofs.FirstMatch
import QueryBook.Proofs.Halting
import QueryBook.Proofs.Printing

set_option autoImplicit false

namespace QueryBook

open QueryBook.Action Connection Compiler

-- How a call ends after a text that the driver refuses: with an error about the text, which is
-- hidden only by the error of a rollback that fails as well.
inductive Closes (sql : String) : Error → List Job → Prop where
  | raised (name text : String) : Closes sql (.driver name text (some sql)) []
  | rolledBack (name text : String) :
    Closes sql (.driver name text (some sql)) [⟨.rollback, [], none⟩]
  | stranded (name text : String) :
    Closes sql (.driver name text none) [⟨.rollback, [], some (.foreign name text)⟩]

namespace Book

variable {σ : Type} {setup : Setup (Observed σ)}

-- A call has ended with the error after a text that the driver refuses. What comes after it is no
-- more than a rollback, and no tag has a chain that was being compiled.
structure Refused (e : Error) (book t : Book (Observed σ)) : Prop where
  done : ∃ front job back sql, t.conn.jobs = book.conn.jobs ++ (front ++ job :: back) ∧
    (∀ other ∈ front ++ back, ∀ sql, ¬ other.Refuses sql) ∧ job.Refuses sql ∧ Closes sql e back
  unmade : ∃ added, t.journal = book.journal ++ added ∧
    ∀ tag, Journal.Unfinished added tag → t.library.chain? t.cache tag = none
  validated : Validated book.conn.jobs → Validated t.conn.jobs

theorem Refused.closes_of_refuses {e : Error} {book t : Book (Observed σ)}
    (refused : Refused e book t) :
    ∃ jobs, t.conn.jobs = book.conn.jobs ++ jobs ∧
      ∀ job ∈ jobs, ∀ sql, job.Refuses sql →
        ∃ front back, jobs = front ++ job :: back ∧ Closes sql e back := by
  obtain ⟨front, last, back, text, same, accepted, refuses, closes⟩ := refused.done
  refine ⟨front ++ last :: back, same, fun job member sql refuses' => ?_⟩
  obtain rfl : job = last := by
    by_contra other
    refine accepted job ?_ sql refuses'
    simpa [other] using member
  obtain rfl := refuses.unique refuses'
  exact ⟨front, back, rfl, closes⟩

def Heeds (setup : Setup (Observed σ)) (u : Use) : Prop :=
  ∀ book : Book (Observed σ), book.Explained →
    Ends (use setup u) book (fun _ t => book.conn.Works t.conn)
      (fun e t => book.conn.Works t.conn ∨ Refused e book t)

theorem refused_of_halts {e : Error} {book t : Book (Observed σ)} (same : t.library = book.library)
    (halts : Halts (setup.compiler book.library) e book.toDesk t.toDesk) :
    book.conn.Works t.conn ∨ Refused e book t := by
  obtain ⟨works | breaks, way, stopped⟩ := halts
  · exact .inl works
  · obtain ⟨⟨front, job, done, accepted, sql, name, text, refuses, rfl⟩, validated⟩ := breaks
    obtain ⟨added, noted, unfinished, -⟩ := stopped.leaves.noted
    refine .inr ⟨⟨front, job, [], sql, done, by simpa using accepted, refuses, .raised name text⟩,
      ⟨added, noted, fun tag begun => ?_⟩, validated⟩
    rw [same]
    exact stopped.unmade tag ((unfinished tag).mp begun)

theorem ends_closing_works {message : String} {request : Request (Observed σ) Unit} {q : Asked}
    (asks : Observed.Asks q request) (book : Book (Observed σ)) :
    EndsIn (do note message; ensureConnected; ask request) book
      (fun t => book.conn.Works t.conn) := by
  simp only [EndsIn, ends_bind, ends_note, ends_ensureConnected, ends_ask]
  split
  · exact asks.works book.conn
  · exact .refl book.conn

section Uses

variable (validates : setup.connection.Validates)

include validates

theorem ends_prepareTag_halts (tag : String) (book : Book (Observed σ)) :
    Ends (prepareTag setup tag) book
      (fun _ t => Proceeds book.toDesk t.toDesk ∧ t.library = book.library)
      (fun e t => Halts (setup.compiler book.library) e book.toDesk t.toDesk ∧
        t.library = book.library) := by
  simp only [prepareTag, lookup, ends_bind, ends_library?, ends_onCatalog]
  apply Catalog.ends_lookup_idle
  intro r idle
  have looked := Proceeds.of_idle book.toDesk idle
  cases counts : book.library.chain? book.cache tag with
  | some chain => exact ⟨looked, rfl⟩
  | none =>
    simp only [compile, ends_discard, ends_bind, ends_ensureConnected, ends_library?, ends_onDesk]
    split
    · apply (@ends_compileUnder_halts _ (setup.compiler book.library) validates tag
        { book.toDesk with journal := book.journal ++ [r] } counts).imp
      · exact fun _ _ ended => ⟨looked.trans ended.1, trivial⟩
      · exact fun _ _ halts => ⟨halts.after looked, trivial⟩
    · exact ⟨looked.halts _, trivial⟩

theorem ends_forM_prepareTag_halts (tags : List String) (book : Book (Observed σ)) :
    Ends (tags.forM (prepareTag setup)) book
      (fun _ t => Proceeds book.toDesk t.toDesk ∧ t.library = book.library)
      (fun e t => Halts (setup.compiler book.library) e book.toDesk t.toDesk ∧
        t.library = book.library) := by
  induction tags generalizing book with
  | nil => exact ⟨.refl book.toDesk, rfl⟩
  | cons tag rest ih =>
    change Ends (prepareTag setup tag >>= fun _ => rest.forM (prepareTag setup)) book _ _
    rw [ends_bind]
    apply (ends_prepareTag_halts validates tag book).imp
    · intro _ t ended
      obtain ⟨first, same⟩ := ended
      apply (ih t).imp
      · exact fun _ _ ended => ⟨first.trans ended.1, ended.2.trans same⟩
      · intro e u failed
        rw [same] at failed
        exact ⟨failed.1.after first, failed.2⟩
    · exact fun _ _ failed => failed

theorem heeds_prepare (tags : List String) : Heeds setup (.prepare tags) := by
  intro book _
  simp only [use, prepare, ends_bind, ends_ensureConnected]
  split
  · apply (ends_forM_prepareTag_halts validates tags book).imp
    · exact fun _ _ ended => ended.1.works
    · exact fun _ _ failed => refused_of_halts failed.2 failed.1
  · exact .inl (.refl book.conn)

theorem heeds_get (tag : String) : Heeds setup (.get tag) := by
  intro book _
  simp only [use, get, ends_discard, ends_bind, ends_ensureConnected, ends_library?, ends_onDesk]
  split
  · apply (@ends_get_halts _ (setup.compiler book.library) validates tag book.toDesk).imp
    · exact fun _ _ ended => ended.1.works
    · exact fun _ t halts => @refused_of_halts _ _ _ book { book with toDesk := t } rfl halts
  · exact .inl (.refl book.conn)

theorem heeds_compile (tag : String) : Heeds setup (.compile tag) := by
  intro book _
  rw [ends_compileUse]
  split
  · apply (@ends_compile_halts _ (setup.compiler book.library) validates tag book.toDesk).imp
    · exact fun _ _ works => works
    · intro e t failed
      rcases failed with works | halts
      · exact .inl works
      · exact @refused_of_halts _ _ _ book { book with toDesk := t } rfl halts
  · exact .inl (.refl book.conn)

end Uses

end Book

namespace Turn

variable {σ : Type} {setup : Setup (Observed σ)} {book : Book (Observed σ)}
  {turn : Turn (Observed σ)} {e : Error}

theorem ends_abandon_stops (validates : setup.connection.Validates) (tag : String)
    (same : turn.library = book.library) (up : turn.connected = true)
    (halts : Halts (setup.compiler book.library) e book.toDesk turn.toDesk) :
    Ends (abandon setup tag e : Action (Turn (Observed σ)) Int) turn (fun _ _ => False)
      (fun e' t => book.conn.Works t.conn ∨ Book.Refused e' book t.toBook) := by
  obtain ⟨fails, way, stopped⟩ := halts
  obtain ⟨added, noted, unfinished, -⟩ := stopped.leaves.noted
  let idle : Journal := [.ofTag "librarian" ("ROLLBACK " ++ tag) tag, .debug "librarian" "ROLLBACK"]
  have rests : ∀ r ∈ idle, r.Idle := by
    simp only [idle, List.mem_cons, List.not_mem_nil, or_false, forall_eq_or_imp, forall_eq]
    exact ⟨Record.idle_of_message (by simp [Record.ofTag]), Record.idle_of_message (by decide)⟩
  have rolled {e' : Error} {conn : Observed σ} {fault : Option Fault}
      (done : conn.jobs = turn.conn.jobs ++ [⟨.rollback, [], fault⟩])
      (closes : ∀ sql name text, e = .driver name text (some sql) →
        Closes sql e' [⟨.rollback, [], fault⟩]) :
      book.conn.Works conn ∨
        Book.Refused e' book { turn.toBook with conn, journal := turn.journal ++ idle } := by
    rcases fails with works | ⟨⟨front, job, jobs, accepted, sql, name, text, refuses, shows⟩, valid⟩
    · exact .inl (works.trans (.of_idle done))
    · refine .inr ⟨⟨front, job, _, sql, by simp [done, jobs], ?_, refuses, closes _ _ _ shows⟩,
        ⟨added ++ idle, by simp [noted], fun other begun => ?_⟩, fun validated => ?_⟩
      · simpa [or_imp, forall_and, Job.Refuses] using accepted
      · rw [Journal.unfinished_append_idle rests, unfinished] at begun
        rw [same]
        exact stopped.unmade other begun
      · exact done ▸ (valid validated).concat (.idle ..)
  simp only [ends_abandon, Book.rollback, ends_bind, Book.ends_note, Book.ends_ensureConnected, up,
    if_true, Book.ends_ask]
  apply ((validates.rollback turn.conn).and (ends_self _ _)).imp
  · rintro _ conn ⟨done, -⟩
    have settled := @rolled e conn none done fun sql name text shows =>
      shows ▸ .rolledBack name text
    simpa [idle, up] using settled
  · rintro f conn ⟨done, failed⟩
    obtain ⟨name, text, rfl⟩ := validates.foreign_of_rollback failed
    have settled := rolled done fun sql _ _ _ => .stranded name text
    simpa [idle, up, Error.wrapFault] using settled

theorem ends_execute_stops (validates : setup.connection.Validates) (tag : String)
    (turn : Turn (Observed σ)) (explained : turn.Explained) :
    Ends (execute setup tag) turn (fun _ t => turn.conn.Works t.conn)
      (fun e t => turn.conn.Works t.conn ∨ Book.Refused e turn.toBook t.toBook) := by
  have begins : (Record.ofTag "librarian" ("EXECUTE " ++ tag) tag).Idle :=
    Record.idle_of_message (by simp [Record.ofTag])
  simp only [execute, Book.get, ends_bind, ends_onBook, Book.ends_ensureConnected,
    Book.ends_library?, Book.ends_onDesk, Book.ends_noteTag, ends_rescue]
  split
  next up =>
    apply (@ends_get_halts _ (setup.compiler turn.library) validates tag turn.toDesk).imp
    · intro chain desk ended
      obtain ⟨first, counts⟩ := ended
      have entered := first.trans (.of_idle desk begins)
      have explained' := first.explained explained
      rw [ends_runChain]
      apply (Call.ends_runEntries_halts validates (Call.heeds_runInclude validates _ _)
        chain.entries _ (entered.explained explained)
        fun s member => explained'.of_counts counts member).imp
      · intro _ call ran
        have works := (entered.trans ran).works
        simp only [Action.ends_get]
        split
        · simp only [ends_bind, ends_onBook, ends_pure]
          apply (Book.ends_closing_works validates.commit _).imp
          · exact fun _ _ closed => works.trans closed
          · exact fun _ _ closed => .inl (works.trans closed)
        · exact works
      · intro e call halts
        have after : Halts (setup.compiler turn.library) e turn.toDesk call.toDesk :=
          halts.after entered
        exact (@ends_abandon_stops _ _ turn.toBook
          { turn with toDesk := call.toDesk, data := call.data } _ validates tag rfl up after).imp
          (fun _ _ no => no.elim) fun _ _ settled => settled
    · intro e desk halts
      exact @Book.refused_of_halts _ _ _ turn.toBook { turn.toBook with toDesk := desk } rfl halts
  · exact .inl (.refl turn.conn)

end Turn

namespace Book

variable {σ : Type} {setup : Setup (Observed σ)}

theorem heeds_use (validates : setup.connection.Validates) (u : Use) : Heeds setup u := by
  cases u with
  | prepare tags => exact heeds_prepare validates tags
  | compile tag => exact heeds_compile validates tag
  | get tag => exact heeds_get validates tag
  | execute tag data =>
    intro book explained
    rw [use, ends_executeUse]
    exact Turn.ends_execute_stops validates tag ⟨book, data⟩ explained
  | lookup tag =>
    intro book _
    simp only [use, lookup, ends_discard, ends_bind, ends_library?, ends_onCatalog]
    exact Catalog.ends_lookup fun _ => .refl book.conn
  | hasTag tag =>
    intro book _
    simp only [use, hasTag, toc, ends_discard, ends_bind, ends_ensureConnected, ends_library?,
      ends_onCatalog, ends_pure]
    split
    · apply Catalog.ends_conclude
      · exact fun _ _ _ => .refl book.conn
      · exact fun _ _ _ => .inl (.refl book.conn)
    · exact .inl (.refl book.conn)
  | commit =>
    intro book _
    exact (ends_closing_works validates.commit book).imp (fun _ _ works => works)
      fun _ _ => .inl
  | rollback =>
    intro book _
    exact (ends_closing_works validates.rollback book).imp (fun _ _ works => works)
      fun _ _ => .inl
  | disconnect =>
    intro book _
    simp only [use, disconnect, ends_bind, Action.ends_get, ends_modify, ends_onCatalog,
      Catalog.clear]
    split
    · simp only [ends_bind, ends_note, ends_ask]
      exact (validates.close.works book.conn).imp (fun _ _ works => works) fun _ _ => .inl
    · exact .refl book.conn
  | _ => exact fun book _ => .refl book.conn

-- Every job follows those before it, and so will the executions of all statements in chains.
structure Checked (book : Book (Observed σ)) : Prop where
  validated : Validated book.conn.jobs
  explained : book.Explained

variable {book : Book (Observed σ)}

theorem ends_use_checked (validates : setup.connection.Validates) (u : Use)
    (checked : Checked book) : EndsIn (use setup u) book Checked := by
  have explained : EndsIn (use setup u) book (fun t => t.Explained) := by
    cases edits : u.edits with
    | false =>
      have lasting := @lasting_explained _ (setup.compiler book.library) validates
      exact (ends_use_lasting validates.movesBy_grows lasting edits rfl checked.explained).mono
        fun _ lasts => lasts.holds
    | true =>
      cases u with
      | add tag sql => exact checked.explained
      | remove tag =>
        have lasting := @lasting_explained _ (setup.compiler book.library) validates
        exact lasting.erase tag checked.explained
      | _ => cases edits
  apply ((heeds_use validates u book checked.explained).and explained).imp
  · exact fun _ _ ended => ⟨ended.1.validated checked.validated, ended.2⟩
  · intro e t failed
    obtain ⟨works | refused, explained⟩ := failed
    · exact ⟨works.validated checked.validated, explained⟩
    · exact ⟨refused.validated checked.validated, explained⟩

theorem Checked.afterAll (validates : setup.connection.Validates) (checked : Checked book)
    (happenings : List Happening) : Checked (book.afterAll setup happenings) := by
  induction happenings generalizing book with
  | nil => exact checked
  | cons h rest ih =>
    cases h with
    | use u => exact ih (ends_use_checked validates u checked).outcome
    | edit e => exact ih ⟨checked.validated, checked.explained⟩

variable {driver : CursorDriver σ} {style : MarkerStyle} {result : Except Error Unit}
  {final : Book (Observed σ)}

/-- However a book has been used and its files been edited: the texts that the driver has run are
explanations of texts, and texts of statements that have been explained before with as many nulls as
they have values. When a text is refused, the call ends with an error about it, or with that of a
rollback that fails too, nothing else is asked after it, and no tag that was being compiled has a
chain. -/
theorem explained_before_executed (own : driver.RaisesOwn)
    (raw : setup.connection = Cursors.observed driver style) (fresh : book.cache = [])
    (first : book.conn.jobs = []) (happenings : List Happening) (u : Use)
    (used : (use setup u).outcome (afterAll setup book happenings) = (result, final)) :
    Validated final.conn.jobs ∧
    ∃ jobs, final.conn.jobs = (afterAll setup book happenings).conn.jobs ++ jobs ∧
      ∀ job ∈ jobs, ∀ sql, job.Refuses sql →
        ∃ front back e, jobs = front ++ job :: back ∧ result = .error e ∧ Closes sql e back ∧
          ∃ added, final.journal = (afterAll setup book happenings).journal ++ added ∧
            ∀ tag, Journal.Unfinished added tag →
              final.library.chain? final.cache tag = none := by
  have validates : setup.connection.Validates := raw ▸ Cursors.validates_observed own style
  have empty : Checked book := by
    refine ⟨?_, ?_⟩
    · rw [first]
      exact validated_nil
    · rw [Desk.Explained, fresh]
      exact Cache.every_nil _
  have checked := empty.afterAll validates happenings
  generalize afterAll setup book happenings = before at checked used ⊢
  have later := ends_use_checked validates u checked
  have heeds := heeds_use validates u before checked.explained
  unfold Action.outcome at used
  cases acted : use setup u before with
  | ok a t =>
    rw [acted] at used
    cases used
    obtain ⟨jobs, same, accepted⟩ := (heeds.of_ok acted).done
    exact ⟨(later.of_ok acted).validated, jobs, same, fun job member sql refuses =>
      (accepted job member sql refuses).elim⟩
  | error e t =>
    rw [acted] at used
    cases used
    refine ⟨(later.of_error acted).validated, ?_⟩
    rcases heeds.of_error acted with works | refused
    · obtain ⟨jobs, same, accepted⟩ := works.done
      exact ⟨jobs, same, fun job member sql refuses => (accepted job member sql refuses).elim⟩
    · obtain ⟨jobs, same, closes⟩ := refused.closes_of_refuses
      refine ⟨jobs, same, fun job member sql refuses => ?_⟩
      obtain ⟨front, back, split, closed⟩ := closes job member sql refuses
      exact ⟨front, back, e, split, rfl, closed, refused.unmade⟩

end Book

def CursorDriver.stuck : CursorDriver Unit :=
  { CursorDriver.offline with
    execute := fun _ _ _ => throw (.foreign "OperationalError" "no such table: x")
    rollback := throw (.foreign "OperationalError" "cannot rollback") }

theorem CursorDriver.raisesOwn_stuck : stuck.RaisesOwn where
  execute := by
    intro c text values s f t failed
    cases failed
    exact ⟨_, _, rfl⟩
  closeCursor := by
    intro c s f t failed
    cases failed
  rollback := by
    intro s f t failed
    cases failed
    exact ⟨_, _, rfl⟩

def MarkedText.deletion : MarkedText :=
  ⟨.question, "DELETE FROM ", [("t", "")], []⟩

theorem MarkedText.ofText_deletion : ofText .question "DELETE FROM $t" = deletion := by
  have read : Piece.ofText "DELETE FROM $t" =
      "DELETE FROM ".toList.map .plain ++ [.direct ['t']] :=
    Piece.ofText_of_isFound (by decide) (by decide)
  rw [ofText, read]
  decide

def Statement.deletion : Statement :=
  ⟨"DELETE FROM $t", .mutation, .deletion, .plain, none⟩

theorem Template.statements_deletion : statements "DELETE FROM $t" = ["DELETE FROM $t"] := by
  rw [statements_of_line (by decide) (by decide)]
  decide

namespace Compiler

variable {σ : Type} {c : Compiler σ}

-- A text that is put together from the data is not prepared before it is run.
theorem ends_makeStatement_deletion (tag : String)
    (style : c.style.getD c.connection.style = .question) (plain : c.placement = .plain)
    (desk : Desk σ) :
    Ends (c.makeStatement tag "DELETE FROM $t") desk (fun s t => s = .deletion ∧ t = desk)
      (fun _ _ => False) := by
  have classified : StatementKind.classify "DELETE FROM $t" = .ok (.mutation, "DELETE FROM $t") :=
    rfl
  have unchecked : c.checkLabels tag .deletion = pure () := by
    simp [checkLabels, Statement.deletion]
  simp only [makeStatement, Statement.create, classified, ends_bind, Desk.ends_onConn,
    ends_ofExcept, style, plain, MarkedText.ofText_deletion]
  change Ends (c.checkLabels tag .deletion) desk _ _
  rw [unchecked]
  exact ⟨rfl, rfl⟩

theorem ends_get_deletion {tag : String} (single : c.library.template tag = .ok "DELETE FROM $t")
    (style : c.style.getD c.connection.style = .question) (plain : c.placement = .plain)
    (desk : Desk σ) (unmade : c.library.chain? desk.cache tag = none) :
    Ends (c.get tag) desk
      (fun chain t => chain = ⟨tag, [.statement .deletion]⟩ ∧ t.conn = desk.conn)
      (fun _ _ => False) := by
  simp only [Compiler.get, ends_bind, Desk.ends_onCatalog]
  apply Catalog.ends_lookup
  intro journal
  rw [unmade]
  have compiled := @ends_compileUnder_single _ c tag "DELETE FROM $t" single
    Template.statements_deletion rfl [] (by simp) { desk with journal }
    (fun s conn => s = .deletion ∧ conn = desk.conn) (fun _ _ => False) fun catalog => by
      apply (ends_makeStatement_deletion tag style plain ⟨catalog, desk.conn⟩).imp
      · intro s t made
        obtain ⟨rfl, rfl⟩ := made
        exact ⟨rfl, rfl, rfl⟩
      · exact fun _ _ failed => failed.elim
  apply compiled.imp
  · intro chain t ended
    obtain ⟨⟨s, rfl, rfl, same⟩, -⟩ := ended
    exact ⟨rfl, same⟩
  · exact fun _ _ failed => failed.1

end Compiler

namespace Book

def stuckSetup : Setup (Observed Unit) where
  connection := Cursors.observed .stuck .question
  placement := .plain
  style := none
  warnBareColumns := false
  dialect := none
  parse := fun _ _ => .other
  maxDepth := 1

def stuckBook : Book (Observed Unit) where
  cache := []
  journal := []
  conn := ⟨⟨(), []⟩, []⟩
  library := ⟨.memory (.ofList [("t", "DELETE FROM $t")]), .empty⟩
  connected := true
  autocommit := true

theorem ends_get_stuck :
    Ends (Book.get stuckSetup "t") stuckBook
      (fun chain t => chain = ⟨"t", [.statement .deletion]⟩ ∧ t.conn = stuckBook.conn ∧
        t.connected = true)
      (fun _ _ => False) := by
  have connected : stuckBook.connected = true := rfl
  simp only [Book.get, ends_bind, ends_ensureConnected, connected, if_true, ends_library?,
    ends_onDesk]
  apply (@ends_get_deletion _ (stuckSetup.compiler stuckBook.library) "t" rfl rfl rfl
    stuckBook.toDesk rfl).imp
  · exact fun _ _ got => ⟨got.1, got.2, trivial⟩
  · exact fun _ _ failed => failed

def stuckJobs : List Job :=
  let refusal : Fault := .foreign "OperationalError" "no such table: x"
  [⟨.prepare "DELETE FROM x" 0, [.explanation "DELETE FROM x" 0 (some refusal)], some refusal⟩,
    ⟨.rollback, [], some (.foreign "OperationalError" "cannot rollback")⟩]

theorem ends_run_stuck {stage : Stage (Observed Unit)} (clean : stage.conn = stuckBook.conn)
    (data : stage.data = [("t", .text "x")]) :
    Ends (Statement.deletion.execute stuckSetup.connection) stage (fun _ _ => False)
      (fun _ t => t.conn.jobs = stuckJobs.take 1) := by
  have text : Statement.deletion.textFor stage.data = .ok "DELETE FROM x" := by
    rw [data]
    rfl
  have refused : Ends (stuckSetup.connection.prepare "DELETE FROM x" 0) stage.conn
      (fun _ _ => False) (fun _ t => t.jobs = stuckJobs.take 1) := by
    rw [clean]
    rfl
  have unheld : Statement.deletion.handle = none := rfl
  simp only [Statement.execute, Statement.ready, unheld, Statement.prepareText, ends_bind,
    Action.ends_get, Stage.ends_onLink, Stage.ends_onConn, ends_ofExcept, text, ends_request]
  exact refused.imp (fun _ _ no => no.elim) fun _ _ jobs => jobs

theorem ends_execute_stuck :
    Ends (use stuckSetup (.execute "t" [("t", .text "x")])) stuckBook (fun _ _ => False)
      (fun e t => e = .driver "OperationalError" "cannot rollback" none ∧
        t.conn.jobs = stuckJobs) := by
  rw [use, ends_executeUse]
  simp only [Turn.execute, ends_bind, Turn.ends_onBook, ends_noteTag, ends_rescue]
  apply ends_get_stuck.imp
  · intro chain book ended
    obtain ⟨rfl, same, up⟩ := ended
    rw [Turn.ends_runChain]
    simp only [Call.runChain, Call.runEntries, Call.runStatement, ends_bind, Call.ends_onStage]
    apply (ends_run_stuck same rfl).imp
    · exact fun _ _ no => no.elim
    · intro e t jobs
      simp only [Turn.ends_abandon, Book.rollback, ends_bind, ends_note, ends_ensureConnected, up,
        if_true, ends_ask]
      exact ⟨rfl, congrArg (· ++ _) jobs⟩
  · exact fun _ _ no => no.elim

theorem exists_execute_stuck :
    ∃ final job, (use stuckSetup (.execute "t" [("t", .text "x")])).outcome stuckBook =
        (.error (.driver "OperationalError" "cannot rollback" none), final) ∧
      job ∈ final.conn.jobs ∧ job.Refuses "DELETE FROM x" := by
  cases acted : use stuckSetup (.execute "t" [("t", .text "x")]) stuckBook with
  | ok a t => exact (ends_execute_stuck.of_ok acted).elim
  | error e t =>
    obtain ⟨rfl, jobs⟩ := ends_execute_stuck.of_error acted
    refine ⟨t, stuckJobs.head (by decide), by rw [Action.outcome, acted], ?_, 0, _, rfl,
      List.mem_singleton.mpr rfl⟩
    rw [jobs]
    exact List.head_mem _

theorem explained_before_executed_stuck :
    CursorDriver.stuck.RaisesOwn ∧ stuckSetup.connection = Cursors.observed .stuck .question ∧
    stuckBook.cache = [] ∧ stuckBook.conn.jobs = [] ∧
    ∃ result final,
      (use stuckSetup (.execute "t" [("t", .text "x")])).outcome
        (afterAll stuckSetup stuckBook []) = (result, final) ∧
      (∃ job ∈ final.conn.jobs, job.Refuses "DELETE FROM x") ∧
      Validated final.conn.jobs ∧
      ∃ jobs, final.conn.jobs = (afterAll stuckSetup stuckBook []).conn.jobs ++ jobs ∧
        ∀ job ∈ jobs, ∀ sql, job.Refuses sql →
          ∃ front back e, jobs = front ++ job :: back ∧ result = .error e ∧ Closes sql e back ∧
            ∃ added, final.journal = (afterAll stuckSetup stuckBook []).journal ++ added ∧
              ∀ tag, Journal.Unfinished added tag →
                final.library.chain? final.cache tag = none := by
  obtain ⟨final, job, used, member, refuses⟩ := exists_execute_stuck
  exact ⟨CursorDriver.raisesOwn_stuck, rfl, rfl, rfl, _, final, used, ⟨job, member, refuses⟩,
    explained_before_executed CursorDriver.raisesOwn_stuck rfl rfl rfl [] _ used⟩

/-- A text is refused, and the error of the call is not about it: the rollback has failed too. -/
theorem exists_stranded :
    ∃ e final job, CursorDriver.stuck.RaisesOwn ∧
      stuckSetup.connection = Cursors.observed .stuck .question ∧
      (use stuckSetup (.execute "t" [("t", .text "x")])).outcome stuckBook = (.error e, final) ∧
      job ∈ final.conn.jobs ∧ job.Refuses "DELETE FROM x" ∧
      ∀ name text, e ≠ .driver name text (some "DELETE FROM x") := by
  obtain ⟨final, job, used, member, refuses⟩ := exists_execute_stuck
  refine ⟨_, final, job, CursorDriver.raisesOwn_stuck, rfl, used, member, refuses, ?_⟩
  intro name text same
  cases same

end Book

end QueryBook
