import QueryBook.Proofs.Preparations
import QueryBook.Proofs.Settling

set_option autoImplicit false

namespace QueryBook

open QueryBook.Action Connection

theorem Stage.Noted.idle {σ : Type} {stage t : Stage σ} (noted : stage.Noted t) :
    ∃ idle : Journal, (∀ r ∈ idle, r.Idle) ∧ t.journal = stage.journal ++ idle := by
  rcases noted with same | ⟨text, noted⟩
  · exact ⟨[], by simp, by simp [same]⟩
  · have idle : (Record.debug "statement" ("SQL " ++ text)).Idle :=
      Record.idle_of_message (by simp [Record.debug])
    exact ⟨_, by simpa using idle, noted⟩

namespace Statement

-- The requests that running a statement prepares a text with: one for a statement with
-- substitutions that all have a value, and none otherwise.
def asksToRun (s : Statement) (data : Fields) : List Asked :=
  if s.marked.needsSubstitution then
    match s.textFor data with
    | .error _ => []
    | .ok sql => [.prepare sql s.marked.bindNames.length]
  else []

def Ready (s : Statement) : Prop :=
  s.handle = none ↔ s.marked.needsSubstitution = true

def Asks {σ : Type} (s : Statement) (data : Fields) (state t : Recorded σ) : Prop :=
  ∃ others, t.asked = state.asked ++ (s.asksToRun data ++ others) ∧
    ∀ q ∈ others, q.isPrepare = false

variable {σ : Type} {conn : Connection σ} {s : Statement} {data : Fields} {state t u : Recorded σ}

theorem Asks.trans (asks : s.Asks data state t) (later : Recorded.Adds (!·.isPrepare) t u) :
    s.Asks data state u := by
  obtain ⟨others, asked, unprepared⟩ := asks
  obtain ⟨more, asked', unprepared'⟩ := later
  refine ⟨others ++ more, by rw [asked', asked]; simp only [List.append_assoc], ?_⟩
  intro q member
  rcases List.mem_append.mp member with member | member
  · exact unprepared q member
  · simpa using unprepared' q member

theorem ends_create_ready (conn : Connection σ) (style : Option MarkerStyle)
    (placement : Placement) (block : String) (state : σ) :
    Ends (create conn style placement block) state (fun s _ => s.Ready) (fun _ _ => True) := by
  rw [create_eq]
  simp only [ends_bind, ends_ofExcept]
  cases drafted : draft (style.getD conn.style) placement block with
  | error e => trivial
  | ok d =>
    have unprepared := handle_of_draft drafted
    simp only
    split
    next directs => exact ⟨fun _ => directs, fun _ => unprepared⟩
    next plain =>
      simp only [ends_bind, ends_pure]
      refine (ends_self _ _).imp (fun h _ _ => ?_) fun _ _ _ => trivial
      simp [Ready, plain]

theorem ends_ready_asks (made : s.Ready) (data : Fields) (state : Recorded σ) :
    EndsIn (s.ready conn.recorded data) state (s.Asks data state) := by
  unfold Statement.ready Asks asksToRun
  cases held : s.handle with
  | some h =>
    have plain : ¬ s.marked.needsSubstitution = true := fun directs => by
      simp [made.mpr directs] at held
    exact ⟨[], by simp [plain]⟩
  | none =>
    have directs := made.mp held
    simp only [directs, if_true, ends_bind, ends_ofExcept]
    cases s.textFor data with
    | error e => exact ⟨[], by simp⟩
    | ok sql =>
      simp only [ends_pure]
      exact (ends_prepareText sql _ state).mono fun _ asked => ⟨[], by simpa using asked⟩

def asking (conn : Connection σ) (made : s.Ready) (state : Recorded σ) (data : Fields) :
    Progress conn.recorded s state data where
  Ready _ _ t := s.Asks data state t
  Reads _ _ t := s.Asks data state t
  Left _ t := s.Asks data state t
  ready := ends_ready_asks made data state
  valueless asks _ := asks
  execute asks _ :=
    (Recorded.ends_adds (.execute _ _) (conn.execute _ _) (fun _ => rfl) _).imp
      (fun _ _ => asks.trans) fun _ _ later _ => asks.trans later
  describe asks :=
    (Recorded.ends_adds (fun _ => .describe _) (conn.describe _) (fun _ => rfl) _).imp
      (fun _ _ => asks.trans) fun _ _ later _ => asks.trans later
  fetch asks :=
    (Recorded.ends_adds (fun _ => .fetch _) (conn.fetch _) (fun _ => rfl) _).imp
      (fun _ _ => asks.trans) fun _ _ later _ => asks.trans later
  left _ asks := asks

theorem ends_execute_asks (conn : Connection σ) (made : s.Ready) (stage : Stage (Recorded σ)) :
    EndsIn (s.execute conn.recorded) stage
      (fun t => s.Asks stage.data stage.conn t.conn ∧ stage.Noted t) := by
  apply (asking conn made stage.conn stage.data).ends_execute.imp
  · rintro n t ⟨noted, _, _, -, asks⟩
    exact ⟨asks, noted⟩
  · rintro e t ⟨-, noted, asks⟩
    exact ⟨asks, noted⟩

end Statement

namespace Compiler

variable {σ : Type} {c : Compiler (Recorded σ)} {desk t u : Desk (Recorded σ)}
  {deeds more : List (Deed (Recorded σ))}

def Yields (c : Compiler σ) (s : Statement) : Prop :=
  ∃ tag block, c.library.HasBlock tag block ∧ c.Creates block s

theorem Yields.ready {c : Compiler σ} {s : Statement} (yields : c.Yields s) : s.Ready := by
  obtain ⟨tag, block, -, conn, conn', made⟩ := yields
  exact (Statement.ends_create_ready c.connection c.style c.placement block conn).of_ok made

theorem Kept.yields {c : Compiler σ} {desk : Desk σ} {tag : String} {chain : Chain}
    (kept : Kept c.creating desk) (counts : c.library.chain? desk.cache tag = some chain)
    {s : Statement} (member : .statement s ∈ chain.entries) : c.Yields s := by
  obtain ⟨body, found, entries⟩ := (kept tag chain counts).blocks
  obtain ⟨block, held, made⟩ := Library.exists_of_mem_forall₂ entries member
  cases made with
  | statement plain created => exact ⟨tag, block, ⟨body, found, held⟩, created⟩

-- What the deeds ask of the connection, one after the other. Obtaining a chain prepares no more
-- than the statements of those templates take that were looked for, each time that they were.
inductive Billed (c : Compiler (Recorded σ)) :
    List (Deed (Recorded σ)) → List String → List Asked → Prop where
  | nil : Billed c [] [] []
  | obtained {tag : String} {desk t : Desk (Recorded σ)} {tags more : List String}
      {deeds : List (Deed (Recorded σ))} {work others : List Asked}
      (asked : t.conn.asked = desk.conn.asked ++ work)
      (within : work.Subperm (tags.flatMap c.preparations)) (later : Billed c deeds more others) :
    Billed c (.obtained tag desk t :: deeds) (tags ++ more) (work ++ others)
  | ran {s : Statement} {stage t : Stage (Recorded σ)} {tags : List String}
      {deeds : List (Deed (Recorded σ))} {rest others : List Asked} (yields : c.Yields s)
      (asked : t.conn.asked = stage.conn.asked ++ (s.asksToRun stage.data ++ rest))
      (unprepared : ∀ q ∈ rest, q.isPrepare = false) (later : Billed c deeds tags others) :
    Billed c (.ran s stage t :: deeds) tags (s.asksToRun stage.data ++ rest ++ others)

theorem Billed.append {tags tags' : List String} {work work' : List Asked}
    (billed : Billed c deeds tags work) (billed' : Billed c more tags' work') :
    Billed c (deeds ++ more) (tags ++ tags') (work ++ work') := by
  induction billed with
  | nil => exact billed'
  | obtained asked within _ ih =>
    rw [List.append_assoc, List.append_assoc]
    exact .obtained asked within ih
  | ran yields asked unprepared _ ih =>
    rw [List.append_assoc]
    exact .ran yields asked unprepared ih

structure Accounted (c : Compiler (Recorded σ)) (desk t : Desk (Recorded σ))
    (deeds : List (Deed (Recorded σ))) : Prop where
  steps : Steps c.creating desk t
  account : ∃ records tags work, Seeks c [] desk t records tags ∧ Billed c deeds tags work ∧
    t.conn.asked = desk.conn.asked ++ work

theorem Accounted.of_idle (desk : Desk (Recorded σ)) {idle : Journal}
    (rests : ∀ r ∈ idle, r.Idle) :
    Accounted c desk { desk with journal := desk.journal ++ idle } [] where
  steps := .single (.asked desk desk.conn _ trivial)
  account := ⟨idle, [], [], .of_idle rests rfl, .nil, (List.append_nil _).symm⟩

theorem Accounted.refl (c : Compiler (Recorded σ)) (desk : Desk (Recorded σ)) :
    Accounted c desk desk [] := by
  have stays : Accounted c desk { desk with journal := desk.journal ++ [] } [] :=
    .of_idle desk (List.forall_mem_nil _)
  simpa using stays

theorem Spends.accounted (spends : Spends c [] [] desk t) (tag : String) :
    Accounted c desk t [.obtained tag desk t] where
  steps := spends.apart.steps
  account := by
    obtain ⟨records, tags, work, seeks, asked, within⟩ := spends.bill
    refine ⟨records, tags, work, seeks, ?_, asked⟩
    have billed : Billed c [.obtained tag desk t] (tags ++ []) (work ++ []) :=
      .obtained asked (by simpa using within) .nil
    simpa using billed

theorem Accounted.trans (first : Accounted c desk t deeds) (second : Accounted c t u more) :
    Accounted c desk u (deeds ++ more) where
  steps := first.steps.trans second.steps
  account := by
    obtain ⟨records, tags, work, seeks, billed, asked⟩ := first.account
    obtain ⟨records', tags', work', seeks', billed', asked'⟩ := second.account
    refine ⟨records ++ records', tags ++ tags', work ++ work',
      seeks.trans first.steps seeks' second.steps, billed.append billed', ?_⟩
    rw [asked', asked, List.append_assoc]

end Compiler

open Compiler

namespace Call

variable {σ : Type} {c : Compiler (Recorded σ)} {conn : Connection σ}

theorem accounted_of_ran {s : Statement} {call : Call (Recorded σ)} {stage : Stage (Recorded σ)}
    (yields : c.Yields s) (asks : s.Asks call.data call.conn stage.conn)
    (noted : call.stage.Noted stage) :
    Accounted c call.toDesk (call.setStage stage).toDesk [.ran s call.stage stage] := by
  obtain ⟨idle, rests, noted⟩ := noted.idle
  obtain ⟨others, asked, unprepared⟩ := asks
  refine ⟨.single (.asked call.toDesk stage.conn stage.journal trivial), idle, [],
    s.asksToRun call.data ++ others ++ [], ?_, .ran yields asked unprepared .nil, ?_⟩
  · rw [show (call.setStage stage).toDesk =
      { call.toDesk with conn := stage.conn, journal := call.journal ++ idle } from
        congrArg (fun journal => { call.toDesk with conn := stage.conn, journal }) noted]
    exact .of_idle rests rfl
  · rw [List.append_nil]
    exact asked

theorem accounted_entering (call : Call (Recorded σ)) (desk : Desk (Recorded σ)) (tag : String) :
    Accounted c desk (call.entering desk tag).toDesk [] := by
  refine .of_idle desk ?_
  simp only [List.forall_mem_singleton]
  exact Record.idle_of_message (by simp [Record.ofTag])

-- By induction on the rules that the run goes by.
theorem Runs.accounted (watched : c.connection = conn.recorded) {limit room : Nat}
    {entries : List ChainEntry} {call t : Call (Recorded σ)} {deeds : List (Deed (Recorded σ))}
    {result : Except Error Int} (runs : Runs c limit room entries call deeds result t)
    (kept : Kept c.creating call.toDesk) (made : ∀ s, .statement s ∈ entries → c.Yields s) :
    Accounted c call.toDesk t.toDesk deeds := by
  have asks {s : Statement} (yields : c.Yields s) (stage : Stage (Recorded σ)) :
      EndsIn (s.execute c.connection) stage
        (fun t => s.Asks stage.data stage.conn t.conn ∧ stage.Noted t) := by
    rw [watched]
    exact Statement.ends_execute_asks conn yields.ready stage
  have obtains (tag : String) (desk : Desk (Recorded σ)) :=
    (ends_get_spends watched tag desk).and
      (Compiler.ends_get c.creating c.foresees_any tag trivial desk)
  induction runs with
  | done room call => exact .refl c call.toDesk
  | statement ran later ih =>
    have yields := made _ (List.mem_cons_self ..)
    obtain ⟨asked, noted⟩ := (asks yields _).of_ok ran
    have first := accounted_of_ran yields asked noted
    exact first.trans (ih (first.steps.kept kept) fun s member =>
      made s (List.mem_cons_of_mem _ member))
  | broken failed =>
    have yields := made _ (List.mem_cons_self ..)
    obtain ⟨asked, noted⟩ := (asks yields _).of_error failed
    exact accounted_of_ran yields asked noted
  | cyclic running => exact .refl c _
  | deep fresh => exact .refl c _
  | @unobtained room tag rest call desk e fresh failed =>
    exact ((obtains tag call.toDesk).of_error failed).1.accounted tag
  | @included room tag rest call t u desk chain n inner deeds result fresh got whole later inside
      ih =>
    obtain ⟨spends, steps, counts⟩ := (obtains tag call.toDesk).of_ok got
    have entered := (spends.accounted tag).trans (accounted_entering call desk tag)
    have inside := inside (entered.steps.kept kept) fun s =>
      (steps.kept kept).yields counts
    have first := entered.trans inside
    exact first.trans (ih (first.steps.kept kept) fun s member =>
      made s (List.mem_cons_of_mem _ member))
  | @interrupted room tag rest call t desk chain e inner fresh got failed inside =>
    obtain ⟨spends, steps, counts⟩ := (obtains tag call.toDesk).of_ok got
    have entered := (spends.accounted tag).trans (accounted_entering call desk tag)
    exact entered.trans (inside (entered.steps.kept kept) fun s =>
      (steps.kept kept).yields counts)

end Call

namespace Compiler

variable {σ : Type}

inductive Prepares (c : Compiler σ) : List String → Desk σ → List (Deed σ) → Desk σ → Prop where
  | done (desk : Desk σ) : Prepares c [] desk [] desk
  | obtained {tag : String} {rest : List String} {desk t u : Desk σ} {chain : Chain}
      {deeds : List (Deed σ)} (got : c.get tag desk = .ok chain t)
      (later : Prepares c rest t deeds u) :
    Prepares c (tag :: rest) desk (.obtained tag desk t :: deeds) u
  | unobtained {tag : String} {rest : List String} {desk t : Desk σ} {e : Error}
      (failed : c.get tag desk = .error e t) :
    Prepares c (tag :: rest) desk [.obtained tag desk t] t

theorem exists_prepares (c : Compiler σ) (tags : List String) (desk : Desk σ) :
    ∃ deeds t, Prepares c tags desk deeds t := by
  induction tags generalizing desk with
  | nil => exact ⟨[], desk, .done desk⟩
  | cons tag rest ih =>
    cases got : c.get tag desk with
    | error e t => exact ⟨_, t, .unobtained got⟩
    | ok chain t =>
      obtain ⟨deeds, u, later⟩ := ih t
      exact ⟨_, u, .obtained got later⟩

theorem Prepares.accounted {c : Compiler (Recorded σ)} {conn : Connection σ}
    (watched : c.connection = conn.recorded) {tags : List String} {desk t : Desk (Recorded σ)}
    {deeds : List (Deed (Recorded σ))} (prepares : c.Prepares tags desk deeds t) :
    Accounted c desk t deeds := by
  induction prepares with
  | done desk => exact .refl c desk
  | @obtained tag rest desk t u chain deeds got later ih =>
    exact (((ends_get_spends watched tag desk).of_ok got).accounted tag).trans ih
  | @unobtained tag rest desk t e failed =>
    exact ((ends_get_spends watched tag desk).of_error failed).accounted tag

end Compiler

namespace Book

variable {σ : Type} {setup : Setup σ} {book : Book σ} {tag : String}

theorem ends_prepareTag_get (up : book.connected = true) {good : Unit → Book σ → Prop}
    {bad : Error → Book σ → Prop} :
    Ends (prepareTag setup tag) book good bad ↔
      Ends ((setup.compiler book.library).get tag) book.toDesk
        (fun _ desk => good () { book with toDesk := desk })
        (fun e desk => bad e { book with toDesk := desk }) := by
  simp only [prepareTag, lookup, Compiler.get, ends_bind, ends_library?, ends_onCatalog,
    Desk.ends_onCatalog, Catalog.lookup, Catalog.note, ends_modify, Action.ends_get, ends_pure]
  have same : (setup.compiler book.library).library = book.library := rfl
  rw [same]
  cases book.library.chain? book.cache tag with
  | some chain => simp only [ends_pure]
  | none =>
    simp only [compile, ends_discard, ends_bind, ends_ensureConnected, up, if_true, ends_library?,
      ends_onDesk]

theorem ends_forM_of_prepares {library : Library} {tags : List String} {deeds : List (Deed σ)}
    {desk t : Desk σ} (prepares : (setup.compiler library).Prepares tags desk deeds t)
    (up : book.connected = true) (same : book.library = library) (here : book.toDesk = desk) :
    EndsIn (tags.forM (prepareTag setup)) book (· = { book with toDesk := t }) := by
  induction prepares generalizing book with
  | done desk =>
    subst here
    exact rfl
  | @obtained tag rest desk t u chain deeds got later ih =>
    subst here same
    change Ends (prepareTag setup tag >>= fun _ => rest.forM (prepareTag setup)) book _ _
    rw [ends_bind, ends_prepareTag_get up, ends_of_ok got]
    exact @ih { book with toDesk := t } up rfl rfl
  | @unobtained tag rest desk t e failed =>
    subst here same
    change Ends (prepareTag setup tag >>= fun _ => rest.forM (prepareTag setup)) book _ _
    rw [ends_bind, ends_prepareTag_get up, ends_of_error failed]

theorem ends_prepare_of_prepares {tags : List String} {deeds : List (Deed σ)} {desk : Desk σ}
    (up : book.connected = true)
    (prepares : (setup.compiler book.library).Prepares tags book.toDesk deeds desk) :
    EndsIn (prepare setup tags) book (· = { book with toDesk := desk }) := by
  simp only [prepare, ends_bind, ends_ensureConnected]
  rw [if_pos up]
  exact ends_forM_of_prepares prepares up rfl rfl

end Book

-- What a call does to a desk in the end: nothing is noted there of templates or chains.
structure Desk.Closes {σ : Type} (desk t : Desk (Recorded σ)) : Prop where
  cache : t.cache = desk.cache
  noted : ∃ idle : Journal, (∀ r ∈ idle, r.Idle) ∧ t.journal = desk.journal ++ idle
  asked : ∃ closing, t.conn.asked = desk.conn.asked ++ closing ∧ ∀ q ∈ closing, q.isWork = false

section Closing

variable {σ : Type} {desk t : Desk (Recorded σ)}

theorem Desk.Closes.refl (desk : Desk (Recorded σ)) : desk.Closes desk :=
  ⟨rfl, ⟨[], by simp⟩, [], by simp⟩

theorem Desk.Closes.of_noted {r : Record} (idle : r.Idle)
    (closes : Desk.Closes { desk with journal := desk.journal ++ [r] } t) : desk.Closes t where
  cache := closes.cache
  noted := by
    obtain ⟨later, rests, noted⟩ := closes.noted
    refine ⟨r :: later, List.forall_mem_cons.mpr ⟨idle, rests⟩, ?_⟩
    rw [noted, List.append_assoc]
    rfl
  asked := closes.asked

theorem Book.ends_closing_closes {message : String}
    (idle : (Record.debug "librarian" message).Idle) (q : Asked) (ends : q.isWork = false)
    (request : Request σ Unit) (book : Book (Recorded σ)) :
    EndsIn (do note message; ensureConnected; ask (record (fun _ => q) request)) book
      (fun t => book.toDesk.Closes t.toDesk) := by
  have notes : ∃ idle : Journal, (∀ r ∈ idle, r.Idle) ∧
      book.journal ++ [.debug "librarian" message] = book.journal ++ idle :=
    ⟨[_], by simpa using idle, rfl⟩
  have asked (state : σ) : book.toDesk.Closes
      { book.toDesk with
        conn := ⟨state, book.conn.asked ++ [q]⟩
        journal := book.journal ++ [.debug "librarian" message] } :=
    ⟨rfl, notes, [q], rfl, by simpa using ends⟩
  simp only [ends_bind, ends_note, ends_ensureConnected, ends_ask, ends_record]
  split
  · exact (ends_self _ _).imp (fun _ state _ => asked state) fun _ state _ => asked state
  · exact ⟨rfl, notes, [], by simp⟩

end Closing

namespace Turn

variable {σ : Type} {setup : Setup σ} {tag : String} {turn : Turn (Recorded σ)}
  {deeds : List (Deed (Recorded σ))} {result : Except Error Int} {call : Call (Recorded σ)}

theorem Ran.closes (ran : Ran setup.recorded tag turn deeds result call) :
    EndsIn (execute setup.recorded tag) turn (fun t => call.toDesk.Closes t.toDesk) := by
  unfold EndsIn Ends
  rw [execute_eq, ran.attempt_eq]
  cases result with
  | ok n =>
    have idle : (Record.debug "librarian" "COMMIT").Idle := Record.idle_of_message (by decide)
    have commits := Book.ends_closing_closes idle .commit rfl setup.connection.commit
      (turn.after call).toBook
    change EndsIn (do
      if n ≠ 0 ∧ (← get).autocommit then
        onBook (Book.commit setup.recorded)
      pure n) (turn.after call) _
    simp only [ends_bind, Action.ends_get]
    split
    · simp only [ends_bind, ends_onBook, ends_pure]
      exact commits
    · exact .refl _
  | error e =>
    change EndsIn (abandon setup.recorded tag e : Action _ Int) (turn.after call) _
    have noted : (Record.ofTag "librarian" ("ROLLBACK " ++ tag) tag).Idle :=
      Record.idle_of_message (by simp [Record.ofTag])
    have idle : (Record.debug "librarian" "ROLLBACK").Idle := Record.idle_of_message (by decide)
    rw [EndsIn, ends_abandon]
    exact (Book.ends_closing_closes idle .rollback rfl setup.connection.rollback _).imp
      (fun _ _ => .of_noted noted) fun _ _ => .of_noted noted

theorem Ran.accounted (ran : Ran setup.recorded tag turn deeds result call)
    (kept : Kept (setup.recorded.compiler turn.library).creating turn.toDesk) :
    Accounted (setup.recorded.compiler turn.library) turn.toDesk call.toDesk deeds := by
  let c := setup.recorded.compiler turn.library
  obtain ⟨up, got, runs⟩ := ran
  obtain ⟨steps, counts⟩ :=
    (Compiler.ends_get c.creating c.foresees_any tag trivial turn.toDesk).of_ok got
  have obtained := ((ends_get_spends (c := c) rfl tag turn.toDesk).of_ok got).accounted tag
  have idle : (Record.ofTag "librarian" ("EXECUTE " ++ tag) tag).Idle :=
    Record.idle_of_message (by simp [Record.ofTag])
  have opened := obtained.trans (.of_idle _ (List.forall_mem_singleton.mpr idle))
  exact opened.trans (runs.accounted rfl (opened.steps.kept kept) fun s =>
    (steps.kept kept).yields counts)

end Turn

namespace Book

variable {σ : Type}

inductive Performs (setup : Setup σ) (book : Book σ) : Use → List (Deed σ) → Prop where
  | refused {call : Use} (down : book.connected = false) : Performs setup book call []
  | prepared {tags : List String} {deeds : List (Deed σ)} {desk : Desk σ}
      (up : book.connected = true)
      (prepares : (setup.compiler book.library).Prepares tags book.toDesk deeds desk) :
    Performs setup book (.prepare tags) deeds
  | unobtained {tag : String} {data : Fields} {e : Error} {desk : Desk σ}
      (up : book.connected = true)
      (failed : (setup.compiler book.library).get tag book.toDesk = .error e desk) :
    Performs setup book (.execute tag data) [.obtained tag book.toDesk desk]
  | ran {tag : String} {data : Fields} {deeds : List (Deed σ)} {result : Except Error Int}
      {call : Call σ} (ran : Turn.Ran setup tag ⟨book, data⟩ deeds result call) :
    Performs setup book (.execute tag data) deeds

theorem exists_performs_prepare (setup : Setup σ) (book : Book σ) (tags : List String) :
    ∃ deeds, Performs setup book (.prepare tags) deeds := by
  cases up : book.connected with
  | false => exact ⟨[], .refused up⟩
  | true =>
    obtain ⟨deeds, desk, prepares⟩ :=
      exists_prepares (setup.compiler book.library) tags book.toDesk
    exact ⟨deeds, .prepared up prepares⟩

theorem exists_performs_execute (setup : Setup σ) (book : Book σ) (tag : String) (data : Fields) :
    ∃ deeds, Performs setup book (.execute tag data) deeds := by
  cases up : book.connected with
  | false => exact ⟨[], .refused up⟩
  | true =>
    cases got : (setup.compiler book.library).get tag book.toDesk with
    | error e desk => exact ⟨_, .unobtained up got⟩
    | ok chain desk =>
      obtain ⟨deeds, result, call, runs⟩ := Call.exists_runs (setup.compiler book.library)
        setup.maxDepth (setup.maxDepth - 1) chain.entries
        (Turn.opening ⟨book, data⟩ tag desk)
      exact ⟨_, .ran ⟨up, got, runs⟩⟩

end Book

-- What happened between two desks: the templates of `tags` were looked for, and all that was asked
-- are the requests of the deeds, in their order, and at most the end of the transaction.
structure Account {σ : Type} (c : Compiler (Recorded σ)) (desk t : Desk (Recorded σ))
    (deeds : List (Deed (Recorded σ))) (records : Journal) (tags : List String) : Prop
    extends Seeks c [] desk t records tags where
  asked : ∃ work closing, Billed c deeds tags work ∧
    t.conn.asked = desk.conn.asked ++ work ++ closing ∧ ∀ q ∈ closing, q.isWork = false

theorem Compiler.Accounted.closed {σ : Type} {c : Compiler (Recorded σ)}
    {desk t u : Desk (Recorded σ)} {deeds : List (Deed (Recorded σ))}
    (accounted : Accounted c desk t deeds) (closes : t.Closes u) :
    ∃ records tags, Account c desk u deeds records tags := by
  obtain ⟨records, tags, work, seeks, billed, asked⟩ := accounted.account
  obtain ⟨idle, rests, noted⟩ := closes.noted
  obtain ⟨closing, asked', ends⟩ := closes.asked
  refine ⟨records ++ idle, tags, ⟨?_, ?_, seeks.unmade, seeks.sought, ?_⟩, work, closing, billed,
    by rw [asked', asked], ends⟩
  · rw [noted, seeks.noted, List.append_assoc]
  · simpa using seeks.looks.append (Journal.looks_of_idle rests)
  · intro tag done
    rw [closes.cache]
    rcases List.mem_append.mp done with done | done
    · exact seeks.stored tag done
    · exact absurd done (Journal.not_done_of_idle rests tag)

namespace Book

variable {σ : Type} {setup : Setup σ} {book : Book (Recorded σ)}
  {deeds : List (Deed (Recorded σ))} {call : Use}

theorem Performs.account (performs : Performs setup.recorded book call deeds)
    (calls : (∃ tags, call = .prepare tags) ∨ ∃ tag data, call = .execute tag data)
    (kept : Kept (setup.recorded.compiler book.library).creating book.toDesk) :
    EndsIn (use setup.recorded call) book (fun t => ∃ records tags,
      Account (setup.recorded.compiler book.library) book.toDesk t.toDesk deeds records tags) := by
  cases performs with
  | refused down =>
    have stays := (Accounted.refl (setup.recorded.compiler book.library) book.toDesk).closed
      (.refl book.toDesk)
    rcases calls with ⟨tags, rfl⟩ | ⟨tag, data, rfl⟩
    · simp only [use, prepare, ends_bind, ends_ensureConnected, EndsIn]
      rw [if_neg (by simp [down])]
      exact stays
    · simp only [use, ends_executeUse, Turn.execute, get, ends_bind, Turn.ends_onBook, EndsIn,
        ends_ensureConnected]
      rw [if_neg (by simp [down])]
      exact stays
  | prepared up prepares =>
    refine (ends_prepare_of_prepares up prepares).mono fun t same => ?_
    rw [same]
    exact (prepares.accounted rfl).closed (.refl _)
  | @unobtained tag data e desk up failed =>
    have spends := (ends_get_spends (c := setup.recorded.compiler book.library) rfl tag
      book.toDesk).of_error failed
    simp only [use, ends_executeUse, Turn.execute, get, ends_bind, Turn.ends_onBook, EndsIn,
      ends_ensureConnected, ends_library?, ends_onDesk]
    rw [if_pos up, ends_of_error failed]
    exact (spends.accounted tag).closed (.refl _)
  | ran ran =>
    have accounted := ran.accounted kept
    simp only [use, ends_executeUse, EndsIn]
    exact ran.closes.mono fun _ => accounted.closed

end Book

end QueryBook
