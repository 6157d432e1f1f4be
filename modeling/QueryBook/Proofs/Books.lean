import QueryBook.Proofs.Running

set_option autoImplicit false

namespace QueryBook

namespace Book

variable {σ α : Type} {book : Book σ} {bad : Error → Book σ → Prop}

@[simp] theorem ends_onDesk {good : α → Book σ → Prop} (act : Action (Desk σ) α) :
    Action.Ends (onDesk act) book good bad ↔
      Action.Ends act book.toDesk (fun a desk => good a { book with toDesk := desk })
        (fun e desk => bad e { book with toDesk := desk }) := by
  simp only [onDesk, Action.ends_focus]

@[simp] theorem ends_onCatalog {good : α → Book σ → Prop} (act : Action Catalog α) :
    Action.Ends (onCatalog act) book good bad ↔
      Action.Ends act book.toCatalog (fun a catalog => good a { book with toCatalog := catalog })
        (fun e catalog => bad e { book with toCatalog := catalog }) := by
  simp only [onCatalog, ends_onDesk, Desk.ends_onCatalog]

@[simp] theorem ends_noteTag {good : Unit → Book σ → Prop} (message tag : String) :
    Action.Ends (noteTag message tag) book good bad ↔
      good () { book with journal := book.journal ++ [.ofTag "librarian" message tag] } := by
  simp only [noteTag, ends_onCatalog, Catalog.note, Action.ends_modify]

@[simp] theorem ends_ensureConnected {good : Unit → Book σ → Prop} :
    Action.Ends ensureConnected book good bad ↔
      if book.connected then good () book else bad .disconnected book := by
  simp only [ensureConnected, Action.ends_bind, Action.ends_get]
  cases book.connected <;> simp

@[simp] theorem ends_library? {good : Library → Book σ → Prop} :
    Action.Ends library? book good bad ↔ good book.library book := by
  simp only [library?, Action.ends_bind, Action.ends_get, Action.ends_pure]

@[simp] theorem ends_note {good : Unit → Book σ → Prop} (message : String) :
    Action.Ends (note message) book good bad ↔
      good () { book with journal := book.journal ++ [.debug "librarian" message] } := by
  simp only [note, ends_onCatalog, Catalog.note, Action.ends_modify]

@[simp] theorem ends_ask {good : α → Book σ → Prop} (request : Request σ α) :
    Action.Ends (ask request) book good bad ↔
      Action.Ends request book.conn (fun a conn => good a { book with conn })
        (fun f conn => bad (.wrapFault none f) { book with conn }) := by
  simp only [ask, ends_onDesk, Desk.ends_onConn, Action.ends_request]

end Book

namespace Turn

variable {σ α : Type} {turn : Turn σ} {bad : Error → Turn σ → Prop}

@[simp] theorem ends_onBook {good : α → Turn σ → Prop} (act : Action (Book σ) α) :
    Action.Ends (onBook act) turn good bad ↔
      Action.Ends act turn.toBook (fun a book => good a { turn with toBook := book })
        (fun e book => bad e { turn with toBook := book }) := by
  simp only [onBook, Action.ends_focus]

theorem ends_abandon {good : α → Turn σ → Prop} (setup : Setup σ) (tag : String) (e : Error) :
    Action.Ends (abandon setup tag e) turn good bad ↔
      Action.Ends (Book.rollback setup)
        { turn.toBook with journal := turn.journal ++ [.ofTag "librarian" ("ROLLBACK " ++ tag) tag] }
        (fun _ book => bad e { turn with toBook := book })
        (fun e' book => bad e' { turn with toBook := book }) := by
  simp only [abandon, Action.ends_bind, ends_onBook, Book.ends_noteTag, Action.ends_throw]

@[simp] theorem ends_runChain {good : Int → Turn σ → Prop} (setup : Setup σ) (tag : String)
    (chain : Chain) :
    Action.Ends (runChain setup tag chain) turn good bad ↔
      Action.Ends (Call.runChain (setup.compiler turn.library) setup.maxDepth chain)
        ⟨turn.toDesk, turn.data, .start tag⟩
        (fun _ call => good call.session.affected
          { turn with toDesk := call.toDesk, data := call.data })
        (fun e call => bad e { turn with toDesk := call.toDesk, data := call.data }) := by
  simp only [Action.Ends, runChain]
  cases Call.runChain (setup.compiler turn.library) setup.maxDepth chain
    ⟨turn.toDesk, turn.data, .start tag⟩ <;> rfl

end Turn

structure Book.Advances {σ : Type} {setup : Setup σ} {library : Library}
    (m : (setup.compiler library).Making) (book t : Book σ) : Prop where
  library : t.library = library
  connected : t.connected = book.connected
  autocommit : t.autocommit = book.autocommit
  steps : Compiler.Steps m book.toDesk t.toDesk

section Advances

variable {σ : Type} {setup : Setup σ} {library : Library} {m : (setup.compiler library).Making}
  {Fine : String → Prop} {Bad : Error → Prop} {tag : String}

namespace Book

theorem Advances.refl {book : Book σ} (same : book.library = library) : Advances m book book :=
  ⟨same, rfl, rfl, .refl⟩

theorem Advances.trans {book t u : Book σ} (first : Advances m book t)
    (second : Advances m t u) : Advances m book u where
  library := second.library
  connected := second.connected.trans first.connected
  autocommit := second.autocommit.trans first.autocommit
  steps := first.steps.trans second.steps

theorem Advances.of_steps {book : Book σ} {desk : Desk σ} (same : book.library = library)
    (steps : Compiler.Steps m book.toDesk desk) :
    Advances m book { book with toDesk := desk } :=
  ⟨same, rfl, rfl, steps⟩

theorem Advances.of_asked {book : Book σ} {conn : σ} (journal : Journal)
    (same : book.library = library) (moved : m.Moves book.conn conn) :
    Advances m book { book with conn, journal } :=
  .of_steps same (.single (.asked _ conn journal moved))

theorem ends_get (foreseen : (setup.compiler library).Foresees Fine Bad) (tag : String)
    (fine : Fine tag) {book : Book σ} (same : book.library = library) :
    Action.Ends (get setup tag) book
      (fun chain t => book.connected = true ∧ Advances m book t ∧
        library.chain? t.cache tag = some chain)
      (fun e t => Advances m book t ∧ (e = .disconnected ∨ Bad e)) := by
  subst same
  simp only [get, Action.ends_bind, ends_ensureConnected, ends_library?, ends_onDesk]
  split
  next connected =>
    apply (Compiler.ends_get m foreseen tag fine book.toDesk).imp
    · exact fun chain desk got => ⟨connected, .of_steps rfl got.1, got.2⟩
    · exact fun e desk failed => ⟨.of_steps rfl failed.1, .inr failed.2.2⟩
  next => exact ⟨.refl rfl, .inl trivial⟩

theorem ends_prepareTag (foreseen : (setup.compiler library).Foresees Fine Bad) {tag : String}
    (fine : Fine tag) {book : Book σ} (same : book.library = library) :
    Action.Ends (prepareTag setup tag) book
      (fun _ t => Advances m book t ∧ (library.chain? t.cache tag).isSome)
      (fun e t => Advances m book t ∧ (book.connected = true → Bad e)) := by
  subst same
  simp only [prepareTag, lookup, Action.ends_bind, ends_library?, ends_onCatalog]
  apply Catalog.ends_lookup
  intro journal
  have noted : Advances m book { book with journal } := .of_asked journal rfl (m.refl _)
  cases counts : book.library.chain? book.cache tag with
  | some chain => exact ⟨noted, by simp [counts]⟩
  | none =>
    simp only [compile, Action.ends_discard, Action.ends_bind, ends_ensureConnected, ends_library?,
      ends_onDesk]
    split
    next =>
      apply (Compiler.ends_compileUnder m foreseen [] .nil tag (by simp) (.singleton tag) fine
        { book.toDesk with journal } counts).imp
      · intro chain t made
        obtain ⟨apart, counts, -⟩ := made
        have counts : book.library.chain? t.cache tag = some chain := counts
        exact ⟨noted.trans (.of_steps rfl apart.steps), by simp [counts]⟩
      · exact fun _ _ failed => ⟨noted.trans (.of_steps rfl failed.1.steps), fun _ => failed.2⟩
    next down => exact ⟨noted, fun up => absurd up down⟩

theorem Advances.isSome {book t : Book σ} (advances : Advances m book t)
    (counts : (library.chain? book.cache tag).isSome) : (library.chain? t.cache tag).isSome := by
  obtain ⟨chain, counts⟩ := Option.isSome_iff_exists.mp counts
  exact Option.isSome_iff_exists.mpr ⟨chain, advances.steps.chain? counts⟩

theorem ends_forM_prepareTag (foreseen : (setup.compiler library).Foresees Fine Bad)
    {tags : List String} (fine : ∀ tag ∈ tags, Fine tag) {book : Book σ}
    (same : book.library = library) :
    Action.Ends (tags.forM (prepareTag setup)) book
      (fun _ t => Advances m book t ∧ ∀ tag ∈ tags, (library.chain? t.cache tag).isSome)
      (fun e t => Advances m book t ∧ (book.connected = true → Bad e)) := by
  induction tags generalizing book with
  | nil => exact ⟨.refl same, by simp⟩
  | cons tag rest ih =>
    change Action.Ends (prepareTag setup tag >>= fun _ => rest.forM (prepareTag setup)) book _ _
    rw [Action.ends_bind]
    apply (ends_prepareTag foreseen (fine tag (by simp)) same).imp
    · intro _ t ended
      obtain ⟨advanced, counts⟩ := ended
      apply (ih (fun other member => fine other (List.mem_cons_of_mem _ member))
        advanced.library).imp
      · intro _ u ended
        obtain ⟨later, others⟩ := ended
        exact ⟨advanced.trans later, List.forall_mem_cons.mpr ⟨later.isSome counts, others⟩⟩
      · intro e u failed
        obtain ⟨later, bad⟩ := failed
        exact ⟨advanced.trans later, fun up => bad (advanced.connected.trans up)⟩
    · exact fun _ _ failed => failed

theorem ends_prepare (foreseen : (setup.compiler library).Foresees Fine Bad)
    {tags : List String} (fine : ∀ tag ∈ tags, Fine tag) {book : Book σ}
    (same : book.library = library) :
    Action.Ends (prepare setup tags) book
      (fun _ t => Advances m book t ∧ ∀ tag ∈ tags, (library.chain? t.cache tag).isSome)
      (fun e t => Advances m book t ∧ (book.connected = true → Bad e)) := by
  simp only [prepare, Action.ends_bind, ends_ensureConnected]
  split
  next => exact ends_forM_prepareTag foreseen fine same
  next down => exact ⟨.refl same, fun up => absurd up down⟩

theorem ends_closing (message : String) {request : Request σ Unit} (book : Book σ)
    (same : book.library = library)
    (raises : ∀ {f s t}, request s = .error f t → setup.connection.Raises f)
    (moved : ∀ s, Action.EndsIn request s (m.Moves s)) :
    Action.Ends (do note message; ensureConnected; ask request) book (fun _ t => Advances m book t)
      (fun e t => Advances m book t ∧ e.Late setup.connection) := by
  simp only [Action.ends_bind, ends_note, ends_ensureConnected, ends_ask]
  split
  · apply ((moved book.conn).and (Action.ends_self _ _)).imp
    · exact fun _ _ ended => .of_asked _ same ended.1
    · exact fun f _ failed => ⟨.of_asked _ same failed.1, (raises failed.2).late none⟩
  · exact ⟨.of_asked _ same (m.refl _), .of_kind rfl rfl⟩

end Book

namespace Turn

theorem ends_runChain_advances (works : setup.connection.WorksBy m.Moves)
    (foreseen : (setup.compiler library).Foresees Fine Bad) (tour : Call.Tour m Fine Bad)
    {chain : Chain} (turn : Turn σ) (same : turn.library = library)
    (holds : tour.Holds turn.toDesk) (enters : tour.Enters [] tag)
    (counts : library.chain? turn.cache tag = some chain) :
    Action.Ends (runChain setup tag chain) turn
      (fun _ t => Book.Advances m turn.toBook t.toBook ∧ tour.Ran (setup.maxDepth - 1 + 1) tag)
      (fun e t => Book.Advances m turn.toBook t.toBook ∧ Bad e) := by
  subst same
  rw [ends_runChain]
  apply (@Call.ends_runChain _ _ m _ _ works foreseen tour setup.maxDepth tag chain
    ⟨turn.toDesk, turn.data, .start tag⟩ holds enters rfl counts).imp
  · exact fun _ call passed => ⟨.of_steps rfl passed.1.steps, passed.2⟩
  · exact fun _ call failed => ⟨.of_steps rfl failed.1.steps, failed.2⟩

theorem ends_execute (moved : setup.connection.MovesBy m.Moves) (tag : String) (turn : Turn σ)
    (same : turn.library = library) :
    Action.EndsIn (execute setup tag) turn (fun t => Book.Advances m turn.toBook t.toBook) := by
  simp only [execute, Action.ends_bind, ends_onBook, Book.ends_noteTag, Action.ends_rescue]
  apply (Book.ends_get (Compiler.foresees_any _) tag trivial same).imp
  · intro chain book ended
    obtain ⟨-, advanced, counts⟩ := ended
    have noted {t : Book σ} (journal : Journal) (after : Book.Advances m turn.toBook t) :
        Book.Advances m turn.toBook { t with journal } :=
      after.trans (.of_asked journal after.library (m.refl _))
    apply (ends_runChain_advances moved.toWorksBy (Compiler.foresees_any _) (.any m) _
      advanced.library trivial trivial counts).imp
    · intro affected t ended
      obtain ⟨ran, -⟩ := ended
      have after := (noted _ advanced).trans ran
      simp only [Action.ends_get]
      split
      · simp only [Action.ends_bind, ends_onBook, Action.ends_pure]
        apply (Book.ends_closing "COMMIT" _ ran.library .commit moved.commit).imp
        · exact fun _ _ committed => after.trans committed
        · exact fun _ _ failed => after.trans failed.1
      · exact after
    · intro e t failed
      obtain ⟨ran, -⟩ := failed
      have after := noted (t.journal ++ [.ofTag "librarian" ("ROLLBACK " ++ tag) tag])
        ((noted _ advanced).trans ran)
      rw [ends_abandon]
      apply (Book.ends_closing "ROLLBACK" _ after.library .rollback moved.rollback).imp
      · exact fun _ _ rolled => after.trans rolled
      · exact fun _ _ failed => after.trans failed.1
  · exact fun _ _ failed => failed.1

end Turn

end Advances

end QueryBook
