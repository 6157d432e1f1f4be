import QueryBook.Proofs.Cycles
import QueryBook.Proofs.Deeds
import QueryBook.Proofs.FileEdits

set_option autoImplicit false

namespace QueryBook

open QueryBook.Action Compiler

theorem eq_error_of_map {α β ε : Type} {f : α → β} {result : Except ε α} {e : ε}
    (failed : f <$> result = .error e) : result = .error e := by
  cases result with
  | ok a => cases failed
  | error e' =>
    cases failed
    rfl

namespace FileShelf

-- The error of a file whose bytes are no text in the encoding of the shelf, or of a place that the
-- system does not let be looked at.
inductive Unread (shelf : FileShelf) (tree : FileTree) : Error → Prop where
  | undecodable {path : Path} {data : List UInt8} {fault : Text.Utf8.Fault}
      (read : tree.bytes path = .ok data)
      (undecodable : shelf.encoding.decode data = .error fault) :
    Unread shelf tree (.undecodable fault)
  | unlooked {directory : Path} {tag : String} {fault : SystemFault}
      (listed : directory ∈ shelf.directories)
      (refused : tree.offers (directory ++ shelf.pathTo tag) = .error fault) :
    Unread shelf tree (.system fault)
  | unwalked {path : Path} {fault : SystemFault}
      (refused : .refused path fault ∈ shelf.walk tree) :
    Unread shelf tree (.system fault)

abbrev FailsWith (shelf : FileShelf) (tree : FileTree) (e : Error) : Prop :=
  e.isLibrary = true ∨ shelf.Unread tree e

variable {shelf : FileShelf} {tree : FileTree} {tag : String} {path : Path} {e : Error}

theorem failsWith_of_content (failed : shelf.content tree path = .error e) :
    shelf.FailsWith tree e := by
  unfold content at failed
  split at failed
  · cases failed
    exact .inl rfl
  next data read =>
    split at failed
    · cases failed
    next fault undecodable =>
      cases failed
      exact .inr (.undecodable read undecodable)

theorem failsWith_of_sectionIn (failed : shelf.sectionIn tree tag path = .error e) :
    shelf.FailsWith tree e := by
  unfold sectionIn at failed
  split at failed
  next unread =>
    cases failed
    exact failsWith_of_content unread
  next =>
    split at failed <;> cases failed
    exact .inl rfl

theorem failsWith_of_searchSections
    (failed : (shelf.searchSections tree tag (shelf.walk tree)).result = .error e) :
    shelf.FailsWith tree e := by
  cases searchSections_failed failed with
  | absent => exact .inl rfl
  | broken _ broken => exact failsWith_of_sectionIn broken
  | refused met => exact .inr (.unwalked met)

theorem failsWith_of_resolve (failed : (shelf.resolve tree tag).result = .error e) :
    shelf.FailsWith tree e := by
  unfold resolve at failed
  split at failed
  · simp only [searchNames] at failed
    split at failed
    · cases failed
      exact .inl rfl
    · rcases firstOffered_cases tree (.noFile tag shelf.extension)
        (shelf.directories.map (· ++ shelf.pathTo tag)) with
        ⟨front, path, back, split, -, ⟨-, found⟩ | ⟨fault, refused, ended⟩⟩ | ⟨-, missing⟩
      · cases failed.symm.trans found
      · cases failed.symm.trans ended
        have member : path ∈ shelf.directories.map (· ++ shelf.pathTo tag) := by simp [split]
        obtain ⟨directory, listed, rfl⟩ := List.mem_map.mp member
        exact .inr (.unlooked listed refused)
      · cases failed.symm.trans missing
        exact .inl rfl
  · exact failsWith_of_searchSections failed

theorem failsWith_of_read (failed : shelf.read tree tag path = .error e) :
    shelf.FailsWith tree e := by
  unfold read at failed
  split at failed
  · exact failsWith_of_content (eq_error_of_map failed)
  · split at failed
    next unread =>
      cases failed
      exact failsWith_of_sectionIn unread
    next => cases failed
    next =>
      cases failed
      exact .inl rfl

theorem failsWith_of_collectTags {stops : List Stop}
    (walked : ∀ path fault, .refused path fault ∈ stops → .refused path fault ∈ shelf.walk tree)
    (failed : (shelf.collectTags tree stops).result = .error e) : shelf.FailsWith tree e := by
  have later {stop : Stop} {rest : List Stop}
      (walked : ∀ path fault, .refused path fault ∈ stop :: rest →
        .refused path fault ∈ shelf.walk tree) (path : Path) (fault : SystemFault)
      (member : .refused path fault ∈ rest) : .refused path fault ∈ shelf.walk tree :=
    walked path fault (List.mem_cons_of_mem _ member)
  fun_induction collectTags shelf tree stops with
  | case1 => cases failed
  | case2 directory rest search ih => exact ih (later walked) failed
  | case3 path fault rest =>
    cases failed
    exact .inr (.unwalked (walked path fault (List.mem_cons_self ..)))
  | case4 path rest e' unread =>
    cases failed
    unfold tagsIn at unread
    split at unread
    · cases unread
    · exact failsWith_of_content (eq_error_of_map unread)
  | case5 path rest tags listed search ih => exact ih (later walked) (eq_error_of_map failed)

end FileShelf

-- An error that is none of the library and reaches the caller as it is: the bytes of a file do not
-- decode, the system refuses to let a place of the library be looked at, or the parser breaks down
-- over a text whose columns are looked at.
inductive Error.Escapes {σ : Type} (setup : Setup σ) (library : Library) : Error → Prop where
  | unread {shelf : FileShelf} {e : Error} (files : library.shelf = .files shelf)
      (unread : shelf.Unread library.tree e) : Escapes setup library e
  | analysis {sql name text : String} (warns : setup.warnBareColumns = true)
      (broken : setup.parse setup.dialect sql = .broken name text) :
    Escapes setup library (.analysis name text)

abbrev Error.Arises {σ : Type} (setup : Setup σ) (library : Library) (e : Error) : Prop :=
  e.isLibrary = true ∨ e.Escapes setup library

section Arising

variable {σ : Type} {setup : Setup σ} {library : Library} {tag : String} {e : Error}

theorem Error.Escapes.not_library (escapes : e.Escapes setup library) : e.isLibrary = false := by
  cases escapes with
  | unread files unread => cases unread <;> rfl
  | analysis => rfl

theorem Error.Arises.blame (tag : String) (arises : e.Arises setup library) :
    (e.blame tag).Arises setup library := by
  rcases arises with known | escapes
  · exact .inl ((congrArg ErrorKind.isLibrary (kind_blame tag e)).trans known)
  · have same : e.blame tag = e := by
      cases escapes with
      | unread files unread => cases unread <;> rfl
      | analysis => rfl
    exact .inr (same.symm ▸ escapes)

theorem Library.arises_of_failsWith {shelf : FileShelf} (files : library.shelf = .files shelf)
    (fails : shelf.FailsWith library.tree e) : e.Arises setup library :=
  fails.imp_right (.unread files)

theorem Library.arises_of_template (failed : library.template tag = .error e) :
    e.Arises setup library := by
  cases kind : library.shelf with
  | memory shelf =>
    rw [template_of_memory kind] at failed
    split at failed <;> cases failed
    exact .inl rfl
  | files shelf =>
    cases found : (shelf.resolve library.tree tag).result with
    | ok path =>
      rw [template_of_files kind found] at failed
      exact arises_of_failsWith kind (FileShelf.failsWith_of_read failed)
    | error e' =>
      rw [template_of_unresolved kind found] at failed
      cases failed
      exact arises_of_failsWith kind (FileShelf.failsWith_of_resolve found)

theorem Library.arises_of_toc (failed : (library.shelf.toc library.tree).result = .error e) :
    e.Arises setup library := by
  cases kind : library.shelf with
  | memory shelf =>
    rw [kind] at failed
    cases failed
  | files shelf =>
    rw [kind] at failed
    exact arises_of_failsWith kind
      (FileShelf.failsWith_of_collectTags (fun _ _ met => met) (eq_error_of_map failed))

theorem foresees_arises (setup : Setup σ) (library : Library) :
    (setup.compiler library).Foresees (fun _ => True) (Error.Arises setup library) where
  inward := fun _ _ => trivial
  missing := fun _ => Library.arises_of_template
  malformed := by
    intro tag block e _ _ malformed
    obtain rfl := Template.eq_malformedInclude malformed
    exact .inl rfl
  cyclic := fun _ _ _ _ _ => .inl rfl
  statement := by
    intro tag block _ _ _ desk
    apply @ends_makeStatement_bad _ _ fun e => (e.blame tag).Arises setup library
    · intro e failed
      obtain ⟨mode, rfl, -⟩ := Statement.selectMode_of_draft failed
      exact .inl rfl
    · exact fun sql f raised => .blame tag (.inl (raised.late sql).library)
    · exact fun _ _ _ warns broken => .inr (.analysis warns broken)
  blame := fun tag => Error.Arises.blame tag

def arisingTour (m : (setup.compiler library).Making) :
    Call.Tour m (fun _ => True) (Error.Arises setup library) where
  Holds := fun _ => True
  Enters := fun _ _ => True
  Ran := fun _ _ => True
  kept := fun _ _ => trivial
  fine := fun _ => trivial
  cyclic := fun _ _ => .inl rfl
  deep := fun _ _ _ => .inl rfl
  late := fun _ late => .inl late.library
  inward := fun _ _ _ _ _ => trivial
  ran := fun _ _ _ => trivial

end Arising

namespace Book

variable {σ : Type} {setup : Setup σ} {book : Book σ}

theorem ends_toc_arises :
    Ends toc book (fun _ _ => True) (fun e _ => e.Arises setup book.library) := by
  simp only [toc, ends_bind, ends_ensureConnected, ends_library?, ends_onCatalog]
  split
  · apply Catalog.ends_conclude
    · exact fun _ _ _ => trivial
    · exact fun e _ failed => Library.arises_of_toc failed
  · exact .inl rfl

theorem ends_use_arises (u : Use) :
    Ends (use setup u) book (fun _ _ => True) (fun e _ => e.Arises setup book.library) := by
  let m := (setup.compiler book.library).classifying
  have foreseen := foresees_arises setup book.library
  have closing (message : String) (request : Request σ Unit)
      (raises : ∀ {f s t}, request s = .error f t → setup.connection.Raises f) :
      Ends (do note message; ensureConnected; ask request) book (fun _ _ => True)
        (fun e _ => e.Arises setup book.library) :=
    (ends_closing (m := m) message book rfl raises fun s =>
      (ends_self _ s).imp (fun _ _ _ => trivial) fun _ _ _ => trivial).imp
      (fun _ _ _ => trivial) fun _ _ failed => .inl failed.2.library
  cases u with
  | prepare tags => exact ends_prepare_bad foreseen (.inl rfl) fun _ _ => trivial
  | compile tag =>
    rw [ends_compileUse]
    split
    · apply (ends_compile m foreseen tag trivial book.toDesk).imp
      · exact fun _ _ _ => trivial
      · exact fun _ _ failed => failed.2
    · exact .inl rfl
  | get tag =>
    simp only [use, ends_discard]
    apply (ends_get (m := m) foreseen tag trivial rfl).imp
    · exact fun _ _ _ => trivial
    · intro e _ failed
      rcases failed.2 with rfl | arises
      · exact .inl rfl
      · exact arises
  | execute tag data =>
    rw [use, ends_executeUse]
    apply (ends_self _ _).imp
    · exact fun _ _ _ => trivial
    · intro e t failed
      exact Turn.bad_of_execute (Connection.MovesBy.any setup.connection).toWorksBy foreseen
        (arisingTour m) rfl trivial trivial trivial failed
  | lookup tag =>
    simp only [use, lookup, ends_discard, ends_bind, ends_library?, ends_onCatalog]
    exact Catalog.ends_lookup fun _ => trivial
  | hasTag tag =>
    simp only [use, hasTag, ends_discard, ends_bind, ends_pure]
    exact ends_toc_arises
  | commit => exact closing "COMMIT" _ .commit
  | rollback => exact closing "ROLLBACK" _ .rollback
  | disconnect =>
    simp only [use, disconnect, ends_bind, Action.ends_get, ends_modify, ends_onCatalog,
      Catalog.clear]
    split
    · simp only [ends_bind, ends_note, ends_ask]
      exact (ends_self _ _).imp (fun _ _ _ => trivial) fun f _ failed =>
        .inl ((Connection.Raises.close failed).late none).library
    · trivial
  | _ => trivial

-- No integer that the call writes into a text has more digits than are ever written. The text of a
-- value has no such limit here, so calls that would meet it are left out.
def Writes (setup : Setup σ) (book : Book σ) (u : Use) : Prop :=
  ∀ deeds, Performs setup book u deeds → ∀ s stage t, .ran s stage t ∈ deeds →
    ∀ key ∈ s.marked.directNames, ∀ n : Int,
      s.placement.resolve stage.data key = .ok (.int n) →
      (Nat.toDigits 10 n.natAbs).length ≤ 4300

/-- An error that a call of a book fails with is one of the library, or it comes from a file, from
the system or from the parser: every error of the connection is wrapped, whatever it is. -/
theorem escapes_of_failed (setup : Setup σ) {book t : Book σ} {e : Error}
    (failed : (∃ u, Writes setup book u ∧ (use setup u).outcome book = (.error e, t)) ∨
      toc.outcome book = (.error e, t)) :
    e.isLibrary = false ↔ e.Escapes setup book.library := by
  have arises : e.Arises setup book.library := by
    rcases failed with ⟨u, -, failed⟩ | failed
    · exact (ends_use_arises u).of_error (eq_error_of_outcome failed)
    · exact ends_toc_arises.of_error (eq_error_of_outcome failed)
  constructor
  · intro foreign
    rcases arises with known | escapes
    · simp [known] at foreign
    · exact escapes
  · exact Error.Escapes.not_library

end Book

-- The one file holds a byte that starts no character.
def Library.garbled : Library where
  shelf := .files (.ofParts .onePerFile ["lib"] "sql" .utf8)
  tree := FileTree.empty.write ["lib", "a.sql"] [0xFF] 1

namespace Book

def garbledBook : Book Script.Played where
  cache := []
  journal := []
  conn := ⟨[], []⟩
  library := .garbled
  connected := true
  autocommit := true

theorem exists_execute_garbled :
    ∃ fault t, (use silentSetup (.execute "a" [])).outcome garbledBook =
      (.error (.undecodable fault), t) := by
  obtain ⟨fault, missing⟩ : ∃ fault, Library.garbled.template "a" = .error (.undecodable fault) :=
    ⟨_, rfl⟩
  have fails : Ends (use silentSetup (.execute "a" [])) garbledBook (fun _ _ => False)
      (fun e _ => e = .undecodable fault) := by
    have up : garbledBook.connected = true := rfl
    simp only [use, ends_executeUse, Turn.execute, Book.get, ends_bind, Turn.ends_onBook,
      ends_ensureConnected, up, if_true, ends_library?, ends_onDesk]
    exact (ends_get_missing rfl missing).imp (fun _ _ no => no.elim) fun _ _ same => same
  obtain ⟨t, failed⟩ := fails.exists_error
  exact ⟨fault, t, by rw [outcome, failed]⟩

theorem writes_garbled : Writes silentSetup garbledBook (.execute "a" []) := by
  intro deeds performs s stage t member
  have missing : ∃ fault, Library.garbled.template "a" = .error (.undecodable fault) := ⟨_, rfl⟩
  obtain ⟨fault, missing⟩ := missing
  cases performs with
  | refused down => cases down
  | unobtained up failed => simp at member
  | ran ran =>
    obtain ⟨-, got, -⟩ := ran
    have fails := @ends_get_missing _ (silentSetup.compiler .garbled) garbledBook.toDesk "a" _ rfl
      missing
    exact (fails.of_ok got).elim

theorem escapes_of_failed_garbled :
    ∃ e t, ((∃ u, Writes silentSetup garbledBook u ∧
          (use silentSetup u).outcome garbledBook = (.error e, t)) ∨
        toc.outcome garbledBook = (.error e, t)) ∧
      (e.isLibrary = false ↔ e.Escapes silentSetup garbledBook.library) := by
  obtain ⟨fault, t, failed⟩ := exists_execute_garbled
  exact ⟨_, t, .inl ⟨_, writes_garbled, failed⟩,
    escapes_of_failed silentSetup (.inl ⟨_, writes_garbled, failed⟩)⟩

theorem exists_escaped :
    ∃ e t, (use silentSetup (.execute "a" [])).outcome garbledBook = (.error e, t) ∧
      e.isLibrary = false := by
  obtain ⟨fault, t, failed⟩ := exists_execute_garbled
  exact ⟨_, t, failed, rfl⟩

end Book

end QueryBook
