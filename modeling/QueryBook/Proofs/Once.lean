import QueryBook.Proofs.Deeds
import QueryBook.Proofs.Includes

set_option autoImplicit false

namespace QueryBook

open QueryBook.Action Compiler Connection

-- The use leaves a tag its chain: it does not drop it on purpose, and does not fail to compile the
-- tag anew.
def Use.Spares {σ : Type} (setup : Setup σ) (tag : String) (book : Book σ) : Use → Prop
  | .add other _ | .remove other | .invalidate other => other ≠ tag
  | .clear | .disconnect => False
  | .compile other => other = tag → ∃ chain t, Book.compile setup tag book = .ok chain t
  | _ => True

namespace Book

variable {σ : Type} {setup : Setup σ} {tag : String}

def Spares (setup : Setup σ) (tag : String) : Book σ → List Use → Prop
  | _, [] => True
  | book, u :: rest => u.Spares setup tag book ∧ Spares setup tag ((use setup u).outcome book).2 rest

def Counts (tag : String) (book : Book σ) : Prop :=
  (book.library.chain? book.cache tag).isSome

section Spared

variable {making : ∀ library, (setup.compiler library).Making} {book : Book σ}

theorem ends_compileUse_counts (m : (setup.compiler book.library).Making) {other : String}
    (spares : (Use.compile other).Spares setup tag book) (counts : Counts tag book) :
    EndsIn (use setup (.compile other)) book (Counts tag) := by
  by_cases same : other = tag
  · subst same
    obtain ⟨chain, t, compiled⟩ := spares rfl
    have made : Ends (compile setup other) book (fun _ t => Counts other t) (fun _ _ => True) := by
      simp only [compile, ends_bind, ends_ensureConnected, ends_library?, ends_onDesk]
      split
      · apply (Compiler.ends_compile m (foresees_any _) other trivial book.toDesk).imp
        · exact fun chain _ ended => Option.isSome_iff_exists.mpr ⟨chain, ended.2.1⟩
        · exact fun _ _ _ => trivial
      · trivial
    change Ends (discard (compile setup other)) book _ _
    rw [ends_discard]
    unfold Ends
    rw [compiled]
    exact made.of_ok compiled
  · obtain ⟨chain, counts⟩ := Option.isSome_iff_exists.mp counts
    have reset (source : Source) (journal : Journal) {t : Desk σ}
        (steps : Steps m { book.toDesk with
          cache := book.cache.put other ⟨source, book.library.fingerprint source, none⟩
          journal } t) : Counts tag { book with toDesk := t } := by
      refine Option.isSome_iff_exists.mpr ⟨chain, steps.chain? ?_⟩
      exact (Library.chain?_found ..).trans ((if_neg fun back => same back.symm).trans counts)
    simp only [ends_compileUse]
    split
    · apply (Compiler.ends_compile m (foresees_any _) other trivial book.toDesk).imp
      · intro _ t ended
        obtain ⟨⟨source, journal, -, steps⟩, -⟩ := ended
        exact reset source journal steps
      · intro e t failed
        rcases failed with ⟨steps | ⟨source, journal, -, steps⟩, -⟩
        · exact Option.isSome_iff_exists.mpr ⟨chain, steps.chain? counts⟩
        · exact reset source journal steps
    · exact Option.isSome_iff_exists.mpr ⟨chain, counts⟩

variable (moved : ∀ library, setup.connection.MovesBy (making library).Moves)

include moved in
theorem ends_use_counts (upheld : Upheld making book) {u : Use} (spares : u.Spares setup tag book)
    (counts : Counts tag book) : EndsIn (use setup u) book (Counts tag) := by
  have advanced {u : Use} (advances : u.advances = true) :
      EndsIn (use setup u) book (Counts tag) := by
    have kept {t : Book σ} (advances : Advances (making book.library) book t) : Counts tag t := by
      unfold Counts
      rw [advances.library]
      exact advances.isSome counts
    exact (ends_use_advances (moved book.library) advances rfl).mono fun _ => kept
  have edited {t : Book σ} {other : String} (edited : Edited other book t) (spares : other ≠ tag) :
      Counts tag t := by
    unfold Counts
    rw [edited.chains tag spares.symm]
    exact counts
  cases u with
  | add other sql => exact edited (Shelved.add upheld.1 other sql).2 spares
  | remove other =>
    simp only [use, remove, ends_bind, ends_onCatalog, Catalog.invalidate, ends_modify]
    exact edited (Shelved.remove upheld.1 other).2 spares
  | invalidate other =>
    simp only [use, ends_onCatalog, Catalog.invalidate, ends_modify]
    have spares : other ≠ tag := spares
    simpa [Counts, Library.chain?_erase, spares.symm] using counts
  | compile other => exact ends_compileUse_counts (making book.library) spares counts
  | setAutocommit enabled => exact counts
  | clear => exact spares.elim
  | disconnect => exact spares.elim
  | _ => exact advanced rfl

variable (known : ∀ library later, (making library).Known = (making later).Known)

include moved known in
theorem counts_after {uses : List Use} (upheld : Upheld making book)
    (spared : Spares setup tag book uses) (counts : Counts tag book) :
    Counts tag (after setup book uses) := by
  induction uses generalizing book with
  | nil => exact counts
  | cons u rest ih =>
    exact ih (upheld_after moved known upheld [u]) spared.2
      (ends_use_counts moved upheld spared.1 counts).outcome

end Spared

section Recorded

variable {setup : Setup σ} {book : Book (Recorded σ)}

theorem ends_use_seeks {u : Use} (advances : u.advances = true)
    (kept : Kept (setup.recorded.compiler book.library).creating book.toDesk) :
    EndsIn (use setup.recorded u) book (fun t => ∃ records tags,
      Seeks (setup.recorded.compiler book.library) [] book.toDesk t.toDesk records tags) := by
  have rests {t : Desk (Recorded σ)} {idle : Journal} (rests : ∀ r ∈ idle, r.Idle)
      (noted : t.journal = book.journal ++ idle) : ∃ records tags,
      Seeks (setup.recorded.compiler book.library) [] book.toDesk t records tags :=
    ⟨idle, [], .of_idle rests noted⟩
  have closing {act : Action (Book (Recorded σ)) Unit}
      (closes : EndsIn act book fun t => book.toDesk.Closes t.toDesk) :
      EndsIn act book (fun t => ∃ records tags,
        Seeks (setup.recorded.compiler book.library) [] book.toDesk t.toDesk records tags) := by
    refine closes.mono fun _ closes => ?_
    obtain ⟨idle, quiet, noted⟩ := closes.noted
    exact rests quiet noted
  have performed {deeds : List (Deed (Recorded σ))} {call : Use}
      (performs : Performs setup.recorded book call deeds)
      (calls : (∃ tags, call = .prepare tags) ∨ ∃ tag data, call = .execute tag data) :
      EndsIn (use setup.recorded call) book (fun t => ∃ records tags,
        Seeks (setup.recorded.compiler book.library) [] book.toDesk t.toDesk records tags) :=
    (performs.account calls kept).mono fun _ ⟨records, tags, account⟩ =>
      ⟨records, tags, account.toSeeks⟩
  cases u with
  | prepare tags =>
    obtain ⟨deeds, performs⟩ := exists_performs_prepare setup.recorded book tags
    exact performed performs (.inl ⟨tags, rfl⟩)
  | execute tag data =>
    obtain ⟨deeds, performs⟩ := exists_performs_execute setup.recorded book tag data
    exact performed performs (.inr ⟨tag, data, rfl⟩)
  | get tag =>
    simp only [use, get, ends_discard, ends_bind, ends_ensureConnected, ends_library?, ends_onDesk]
    split
    · refine (ends_get_spends rfl tag book.toDesk).mono fun _ spends => ?_
      obtain ⟨records, tags, -, seeks, -⟩ := spends.bill
      exact ⟨records, tags, seeks⟩
    · exact rests (List.forall_mem_nil _) (List.append_nil _).symm
  | lookup tag =>
    simp only [use, lookup, ends_discard, ends_bind, ends_library?, ends_onCatalog]
    apply Catalog.ends_lookup_idle
    exact fun r idle => rests (List.forall_mem_singleton.mpr idle) rfl
  | hasTag tag =>
    simp only [use, hasTag, toc, Catalog.toc, Catalog.conclude, ends_discard, ends_bind,
      ends_ensureConnected, ends_library?, ends_onCatalog, ends_pure, ends_ofExcept]
    split
    · apply Catalog.ends_forM_noteSkipped
      intro idle quiet
      cases (book.library.shelf.toc book.library.tree).result with
      | ok tags => exact rests quiet rfl
      | error e => exact rests quiet rfl
    · exact rests (List.forall_mem_nil _) (List.append_nil _).symm
  | commit =>
    have idle : (Record.debug "librarian" "COMMIT").Idle := Record.idle_of_message (by decide)
    exact closing (ends_closing_closes idle .commit rfl setup.connection.commit book)
  | rollback =>
    have idle : (Record.debug "librarian" "ROLLBACK").Idle := Record.idle_of_message (by decide)
    exact closing (ends_closing_closes idle .rollback rfl setup.connection.rollback book)
  | _ => cases advances

def Stores (book t : Book (Recorded σ)) : Prop :=
  ∀ tag records, t.journal = book.journal ++ records → .done tag ∈ records → Counts tag t

theorem stores_of_idle {t : Book (Recorded σ)} {idle : Journal} (rests : ∀ r ∈ idle, r.Idle)
    (noted : t.journal = book.journal ++ idle) : Stores book t := by
  intro tag records noted' done
  rw [List.append_cancel_left (noted.symm.trans noted')] at rests
  exact absurd done (Journal.not_done_of_idle rests tag)

theorem ends_use_stores (u : Use)
    (kept : Kept (setup.recorded.compiler book.library).creating book.toDesk) :
    EndsIn (use setup.recorded u) book (Stores book) := by
  have silent {t : Book (Recorded σ)} (same : t.journal = book.journal) : Stores book t :=
    @stores_of_idle _ _ t [] (by simp) (by simpa using same)
  have advanced {u : Use} (advances : u.advances = true) :
      EndsIn (use setup.recorded u) book (Stores book) := by
    have stores {t : Book (Recorded σ)} (ended : (∃ records tags,
        Seeks (setup.recorded.compiler book.library) [] book.toDesk t.toDesk records tags) ∧
          Advances (setup.recorded.compiler book.library).creating book t) : Stores book t := by
      obtain ⟨⟨records, tags, seeks⟩, advances⟩ := ended
      intro tag records' noted done
      obtain rfl : records = records' := List.append_cancel_left (seeks.noted.symm.trans noted)
      unfold Counts
      rw [advances.library]
      exact seeks.stored tag done
    exact ((ends_use_seeks advances kept).and
      (ends_use_advances (Connection.MovesBy.any _) advances rfl)).mono fun _ => stores
  cases u with
  | compile tag =>
    simp only [ends_compileUse]
    split
    · have stores {t : Desk (Recorded σ)}
          (bill : Bill (setup.recorded.compiler book.library) [] [tag] book.toDesk t) :
          Stores book { book with toDesk := t } := by
        obtain ⟨records, _, _, seeks, -⟩ := bill
        intro other records' noted done
        obtain rfl : records = records' := List.append_cancel_left (seeks.noted.symm.trans noted)
        exact seeks.stored other done
      exact (ends_compile_spends rfl tag book.toDesk).imp (fun _ _ ended => stores ended.1)
        fun _ _ => stores
    · exact silent rfl
  | remove tag =>
    simp only [use, remove, ends_bind, ends_onCatalog, Catalog.invalidate, ends_modify]
    exact silent rfl
  | disconnect =>
    have idle : (Record.debug "librarian" "DISCONNECT").Idle :=
      Record.idle_of_message (by decide)
    simp only [use, disconnect, ends_bind, Action.ends_get, ends_modify, ends_onCatalog,
      Catalog.clear]
    split
    · simp only [ends_bind, ends_note, ends_ask]
      apply (ends_self _ _).imp
      · exact fun _ _ _ => stores_of_idle (by simpa using idle) rfl
      · exact fun _ _ _ => stores_of_idle (by simpa using idle) rfl
    · exact silent rfl
  | add tag sql => exact silent rfl
  | invalidate tag => exact silent rfl
  | clear => exact silent rfl
  | setAutocommit enabled => exact silent rfl
  | _ => exact advanced rfl

/-- A use has compiled the tag, requested or included. A later call that prepares tags or executes
one does its deeds, and what it asks of the connection are theirs: it does not look for the tag, so
none of its statements is prepared to compile it; and each run of a statement prepares one text, if
the statement has substitutions that all have a value, and else none. This lasts until the chain of
the tag is dropped, by one of the calls that do so or by a compilation of the tag that fails. -/
theorem looked_for_once (reached : Reached setup.recorded book) {u : Use} {tag : String}
    {records : Journal}
    (noted : (after setup.recorded book [u]).journal = book.journal ++ records)
    (compiled : .done tag ∈ records) {later : List Use}
    (spared : Spares setup.recorded tag (after setup.recorded book [u]) later) {call : Use}
    (calls : (∃ tags, call = .prepare tags) ∨ ∃ tag data, call = .execute tag data) :
    let start := after setup.recorded book (u :: later)
    let final := after setup.recorded start [call]
    (∃ deeds, Performs setup.recorded start call deeds) ∧
    ∀ deeds, Performs setup.recorded start call deeds → ∃ records tags,
      Account (setup.recorded.compiler start.library) start.toDesk final.toDesk deeds records
        tags ∧
      tag ∉ tags := by
  intro start final
  have moved (library : Library) : setup.recorded.connection.MovesBy
      (setup.recorded.compiler library).creating.Moves :=
    Connection.MovesBy.any _
  let making (library : Library) := (setup.recorded.compiler library).creating
  have upheld : Upheld making book := reached.upheld_of moved fun _ _ => rfl
  have stored : Counts tag (after setup.recorded book [u]) :=
    (ends_use_stores u upheld.2).outcome tag records noted compiled
  have made := upheld_after moved (fun _ _ => rfl) upheld [u]
  have counts : Counts tag (after setup.recorded (after setup.recorded book [u]) later) :=
    counts_after moved (fun _ _ => rfl) made spared stored
  have kept : Kept (making start.library) start.toDesk :=
    (upheld_after moved (fun _ _ => rfl) upheld (u :: later)).2
  have performs : ∃ deeds, Performs setup.recorded start call deeds := by
    rcases calls with ⟨tags, rfl⟩ | ⟨tag, data, rfl⟩
    · exact exists_performs_prepare _ _ tags
    · exact exists_performs_execute _ _ tag data
  refine ⟨performs, fun deeds performs => ?_⟩
  obtain ⟨records, tags, account⟩ := (performs.account calls kept).outcome
  refine ⟨records, tags, account, fun member => ?_⟩
  obtain ⟨chain, counts⟩ := Option.isSome_iff_exists.mp counts
  rcases account.unmade tag member with unmade | again
  · exact absurd (counts.symm.trans unmade) (by simp)
  · cases again

end Recorded

theorem ends_prepare_unmade {setup : Setup σ} {book : Book (Recorded σ)}
    (up : book.connected = true) (unmade : book.library.chain? book.cache tag = none) :
    EndsIn (prepare setup.recorded [tag]) book
      (fun t => ∃ records, t.journal = book.journal ++ records ∧ .begun tag ∈ records) := by
  change Ends (ensureConnected >>= fun _ => prepareTag setup.recorded tag >>= fun _ => pure ())
    book _ _
  simp only [prepareTag, lookup, ends_bind, ends_ensureConnected, up, if_true, ends_library?,
    ends_onCatalog, ends_pure]
  apply Catalog.ends_lookup_idle
  intro r _
  simp only [unmade, compile, ends_discard, ends_bind, ends_ensureConnected, if_true, ends_library?,
    ends_onDesk]
  have looked {t : Desk (Recorded σ)} (bill : Bill (setup.recorded.compiler book.library) [] [tag]
      { book.toDesk with journal := book.journal ++ [r] } t) :
      ∃ records, t.journal = book.journal ++ records ∧ .begun tag ∈ records := by
    obtain ⟨records, tags, _, seeks, -⟩ := bill
    refine ⟨r :: records, by rw [seeks.noted, List.append_assoc]; rfl, ?_⟩
    exact List.mem_cons_of_mem _ (seeks.looks.mem_iff.mp (seeks.sought tag (by simp)))
  exact (ends_compile_spends rfl tag { book.toDesk with journal := book.journal ++ [r] }).imp
    (fun _ _ ended => looked ended.1) fun _ _ => looked

def frugalBook : Book (Recorded Nat) :=
  limitedBook ⟨⟨[], []⟩, ⟨1, []⟩⟩

theorem reached_frugal : Reached limitedSetup.recorded frugalBook :=
  ⟨[("outer", "include inner"), ("inner", "x")], .empty, ⟨⟨1, []⟩, []⟩, true, [], rfl⟩

theorem after_compile_inner :
    ∃ desk records, after limitedSetup.recorded frugalBook [.compile "inner"] = limitedBook desk ∧
      desk.conn.state = 0 ∧ desk.journal = frugalBook.journal ++ records ∧
      .done "inner" ∈ records := by
  have compiles : Ends (use limitedSetup.recorded (.compile "inner")) frugalBook
      (fun _ t => ∃ desk records, t = limitedBook desk ∧ desk.conn.state = 0 ∧
        desk.journal = frugalBook.journal ++ records ∧ .done "inner" ∈ records)
      (fun _ _ => False) := by
    simp only [ends_compileUse]
    apply ((ends_compileUnder_inner [] (by simp) frugalBook.toDesk).and
      (ends_compile_spends rfl "inner" frugalBook.toDesk)).imp
    · intro chain desk ended
      obtain ⟨left, -, records, noted, compiled⟩ := ended
      exact ⟨desk, records, rfl, Nat.succ.inj left, noted, compiled⟩
    · intro e desk failed
      obtain ⟨⟨left, -⟩, -⟩ := failed
      cases left
  exact (compiles.imp (fun _ _ left => left) fun _ _ no => no.elim).outcome

theorem looked_for_once_inner :
    let setup := limitedSetup.recorded
    let later : List Use := [.compile "outer"]
    let call : Use := .execute "outer" []
    let start := after setup frugalBook (.compile "inner" :: later)
    let final := after setup start [call]
    Reached setup frugalBook ∧
    (∃ records : Journal,
      (after setup frugalBook [.compile "inner"]).journal = frugalBook.journal ++ records ∧
      .done "inner" ∈ records) ∧
    Spares setup "inner" (after setup frugalBook [.compile "inner"]) later ∧
    ((∃ tags, call = .prepare tags) ∨ ∃ tag data, call = .execute tag data) ∧
    (∃ deeds, Performs setup start call deeds) ∧
    ∀ deeds, Performs setup start call deeds → ∃ records tags,
      Account (setup.compiler start.library) start.toDesk final.toDesk deeds records tags ∧
      "inner" ∉ tags := by
  intro setup later call start final
  obtain ⟨desk, records, same, -, noted, compiled⟩ := after_compile_inner
  have noted : (after setup frugalBook [.compile "inner"]).journal =
      frugalBook.journal ++ records := by
    rw [same]
    exact noted
  have spared : Spares setup "inner" (after setup frugalBook [.compile "inner"]) later :=
    ⟨fun same => absurd same (by decide), trivial⟩
  have calls : (∃ tags, call = .prepare tags) ∨ ∃ tag data, call = .execute tag data :=
    .inr ⟨"outer", [], rfl⟩
  exact ⟨reached_frugal, ⟨records, noted, compiled⟩, spared, calls,
    looked_for_once reached_frugal noted compiled spared calls⟩

/-- The tag is compiled, then compiled anew without success, and then looked for again by the next
call that prepares it. -/
theorem exists_looked_again :
    let setup := limitedSetup.recorded
    let start := after setup frugalBook [.compile "inner", .compile "inner"]
    Reached setup frugalBook ∧
    (∃ records : Journal,
      (after setup frugalBook [.compile "inner"]).journal = frugalBook.journal ++ records ∧
      .done "inner" ∈ records) ∧
    ∃ records : Journal,
      (after setup start [.prepare ["inner"]]).journal = start.journal ++ records ∧
      .begun "inner" ∈ records := by
  intro setup start
  obtain ⟨desk, records, same, left, noted, compiled⟩ := after_compile_inner
  have second : Ends (use setup (.compile "inner")) (limitedBook desk) (fun _ _ => False)
      (fun _ t => ∃ desk, t = limitedBook desk ∧
        Library.nested.chain? desk.cache "inner" = none) := by
    simp only [ends_compileUse]
    apply (ends_compileUnder_inner [] (by simp) desk).imp
    · intro _ t more
      rw [left] at more
      cases more
    · intro e t failed
      obtain ⟨-, source, cached⟩ := failed
      refine ⟨t, rfl, ?_⟩
      rw [cached, Library.chain?_found]
      rfl
  obtain ⟨desk', same', unmade⟩ := (second.imp (fun _ _ no => no.elim) fun _ _ left => left).outcome
  have reached : start = limitedBook desk' := by
    rw [← same', ← same]
    rfl
  refine ⟨reached_frugal, ⟨records, by rw [same]; exact noted, compiled⟩, ?_⟩
  rw [reached]
  exact (ends_prepare_unmade rfl unmade).outcome

end Book

end QueryBook
