import QueryBook.Proofs.FirstMatch
import QueryBook.Proofs.Settling

set_option autoImplicit false

namespace QueryBook

open QueryBook.Action Connection

namespace Book

variable {σ : Type} {setup : Setup σ} {book : Book σ} {conn : σ}

structure Refuses (setup : Setup σ) (book : Book σ) : Prop where
  execute : ∀ tag data,
    (Turn.execute setup tag).outcome ⟨book, data⟩ = (.error .disconnected, ⟨book, data⟩)
  prepare : ∀ tags, (prepare setup tags).outcome book = (.error .disconnected, book)
  get : ∀ tag, (get setup tag).outcome book = (.error .disconnected, book)
  compile : ∀ tag, (compile setup tag).outcome book = (.error .disconnected, book)
  toc : toc.outcome book = (.error .disconnected, book)
  hasTag : ∀ tag, (hasTag tag).outcome book = (.error .disconnected, book)
  commit : ∃ journal,
    (commit setup).outcome book = (.error .disconnected, { book with journal })
  rollback : ∃ journal,
    (rollback setup).outcome book = (.error .disconnected, { book with journal })

theorem refuses_of_disconnected (down : book.connected = false) : Refuses setup book where
  execute tag data := by
    simp [outcome_eq_iff, Turn.execute, get, down]
  prepare tags := by
    simp [outcome_eq_iff, prepare, down]
  get tag := by
    simp [outcome_eq_iff, get, down]
  compile tag := by
    simp [outcome_eq_iff, compile, down]
  toc := by
    simp [outcome_eq_iff, toc, down]
  hasTag tag := by
    simp [outcome_eq_iff, hasTag, toc, down]
  commit := by
    simp [outcome_eq_iff, commit, down]
  rollback := by
    simp [outcome_eq_iff, rollback, down]

theorem disconnect_of_disconnected (down : book.connected = false) :
    (disconnect setup).outcome book = (.ok (), { book with cache := [] }) := by
  cases book
  cases down
  rfl

theorem lookup_of_fresh (fresh : book.cache = []) (tag : String) :
    ((lookup tag).outcome book).1 = .ok none := by
  cases book with
  | mk desk library connected autocommit =>
    obtain ⟨⟨cache, journal⟩, conn⟩ := desk
    cases fresh
    rfl

structure Down (conn : σ) (book : Book σ) : Prop where
  connected : book.connected = false
  conn : book.conn = conn

theorem ends_of_refused {τ α : Type} {act : Action τ α} {s t : τ} {e : Error}
    {good : α → τ → Prop} {bad : Error → τ → Prop} (refused : act.outcome s = (.error e, t))
    (fails : bad e t) : Ends act s good bad := by
  apply (outcome_eq_iff.mp refused).imp
  · intro a u impossible
    cases impossible.1
  · intro e' u failed
    obtain ⟨same, rfl⟩ := failed
    cases same
    exact fails

theorem ends_use_down (down : Down conn book) (u : Use) :
    EndsIn (use setup u) book (Down conn) := by
  have refuses : Refuses setup book := refuses_of_disconnected down.connected
  obtain ⟨connected, rfl⟩ := down
  have still (cache : Cache) (journal : Journal) :
      Down book.conn { book with cache, journal } := ⟨connected, rfl⟩
  cases u with
  | add tag sql => exact ⟨connected, rfl⟩
  | remove tag => exact ⟨connected, rfl⟩
  | prepare tags => exact ends_of_refused (refuses.prepare tags) (still _ _)
  | compile tag =>
    simp only [use, ends_discard]
    exact ends_of_refused (refuses.compile tag) (still _ _)
  | get tag =>
    simp only [use, ends_discard]
    exact ends_of_refused (refuses.get tag) (still _ _)
  | execute tag data =>
    simp only [use, ends_executeUse]
    exact ends_of_refused (refuses.execute tag data) (still _ _)
  | lookup tag =>
    simp only [use, lookup, ends_discard, ends_bind, ends_library?, ends_onCatalog]
    exact Catalog.ends_lookup fun _ => still _ _
  | hasTag tag =>
    simp only [use, ends_discard]
    exact ends_of_refused (refuses.hasTag tag) (still _ _)
  | invalidate tag => exact still _ _
  | clear => exact still _ _
  | commit =>
    obtain ⟨journal, refused⟩ := refuses.commit
    exact ends_of_refused refused (still _ _)
  | rollback =>
    obtain ⟨journal, refused⟩ := refuses.rollback
    exact ends_of_refused refused (still _ _)
  | setAutocommit enabled => exact ⟨connected, rfl⟩
  | disconnect =>
    have done : (disconnect setup).outcome book = _ := disconnect_of_disconnected connected
    apply (outcome_eq_iff.mp done).imp
    · intro _ t ended
      rw [ended.2]
      exact still _ _
    · intro e t failed
      cases failed.1

theorem Down.afterAll (down : Down conn book) (later : List Happening) :
    Down conn (afterAll setup book later) := by
  induction later generalizing book with
  | nil => exact down
  | cons h rest ih =>
    cases h with
    | use u => exact ih (ends_use_down down u).outcome
    | edit e => exact ih ⟨down.connected, down.conn⟩

-- The connection is given up before it is closed, so a failure to close it changes nothing.
theorem ends_disconnect (setup : Setup σ) (book : Book σ) :
    EndsIn (disconnect setup) book (fun t => t.connected = false ∧ t.cache = []) := by
  simp only [disconnect, ends_bind, Action.ends_get, ends_modify, ends_onCatalog, Catalog.clear]
  split
  · simp only [ends_bind, ends_note, ends_ask]
    exact (ends_self _ _).imp (fun _ _ _ => ⟨trivial, trivial⟩) fun _ _ _ => ⟨trivial, trivial⟩
  · exact ⟨rfl, rfl⟩

/-- Whatever has become of the book until it is disconnected, and whether its connection could be
closed or not: no chain is left, and whatever happens later, nothing more is asked of the
connection. -/
theorem disconnected_for_good (setup : Setup σ) (book : Book (Recorded σ))
    (later : List Happening) :
    let gone := happen setup.recorded book (.use .disconnect)
    let after := afterAll setup.recorded gone later
    (∀ tag, ((lookup tag).outcome gone).1 = .ok none) ∧
      after.conn.asked = gone.conn.asked ∧
      Refuses setup.recorded after ∧ Error.disconnected.kind = .configuration ∧
      ((disconnect setup.recorded).outcome after).1 = .ok () := by
  intro gone after
  have left : gone.connected = false ∧ gone.cache = [] :=
    (ends_disconnect setup.recorded book).outcome
  have down : Down gone.conn after := Down.afterAll ⟨left.1, rfl⟩ later
  refine ⟨lookup_of_fresh left.2, by rw [down.conn], refuses_of_disconnected down.connected, rfl, ?_⟩
  rw [disconnect_of_disconnected down.connected]

end Book

end QueryBook
