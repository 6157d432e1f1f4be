import QueryBook.Proofs.Books
import QueryBook.Proofs.FlatRuns

set_option autoImplicit false

namespace QueryBook

open QueryBook.Action

namespace Turn

variable {σ α : Type}

def stage (turn : Turn σ) : Stage σ :=
  ⟨⟨turn.conn, turn.journal⟩, turn.data⟩

def setStage (turn : Turn σ) (stage : Stage σ) : Turn σ :=
  { turn with conn := stage.conn, journal := stage.journal, data := stage.data }

def onStage (act : Action (Stage σ) α) : Action (Turn σ) α :=
  Action.focus stage setStage act

def createAll (setup : Setup σ) (texts : List String) : Action (Turn σ) (List Statement) :=
  onBook <| Book.onDesk <| Desk.onConn <|
    texts.mapM (Statement.create setup.connection setup.style setup.placement)

def executeTexts (setup : Setup σ) (tag : String) (texts : List String) : Action (Turn σ) Int := do
  let statements ← createAll setup texts
  let affected ← (onStage (Statement.runAll setup.connection statements)).rescue (abandon setup tag)
  if affected ≠ 0 ∧ (← get).autocommit then
    onBook (Book.commit setup)
  pure affected

-- Two turns that no later request can tell apart.
structure Abreast {setup : Setup σ} (steady : setup.connection.ByText) (turn other : Turn σ) :
    Prop where
  alike : steady.Alike turn.conn other.conn
  data : turn.data = other.data
  connected : turn.connected = other.connected
  autocommit : turn.autocommit = other.autocommit

variable {setup : Setup σ} {steady : setup.connection.ByText} {turn other : Turn σ}

theorem agree_closing {request : Request σ Unit} (message : String)
    (abreast : Abreast steady turn other)
    (agree : Agree request turn.conn request other.conn (fun a s b t => a = b ∧ steady.Alike s t)
      (fun f s g t => f = g ∧ steady.Alike s t)) :
    Agree (onBook (do Book.note message; Book.ensureConnected; Book.ask request)) turn
      (onBook (do Book.note message; Book.ensureConnected; Book.ask request)) other
      (fun _ t _ u => Abreast steady t u) (fun e t e' u => e = e' ∧ Abreast steady t u) := by
  obtain ⟨alike, data, connected, autocommit⟩ := abreast
  unfold Agree
  simp only [ends_onBook, ends_bind, Book.ends_note, Book.ends_ensureConnected, Book.ends_ask]
  by_cases up : turn.connected = true
  · simp only [if_pos up, if_pos (connected ▸ up)]
    apply Agree.imp agree
    · exact fun _ _ _ _ done => ⟨done.2, data, connected, autocommit⟩
    · exact fun f _ g _ failed => ⟨congrArg _ failed.1, failed.2, data, connected, autocommit⟩
  · simp only [if_neg up, if_neg (connected ▸ up)]
    exact ⟨trivial, alike, data, connected, autocommit⟩

theorem agree_noteTag (message tag : String) (abreast : Abreast steady turn other)
    {bad : Error → Turn σ → Error → Turn σ → Prop} :
    Agree (onBook (Book.noteTag message tag)) turn (onBook (Book.noteTag message tag)) other
      (fun _ t _ u => Abreast steady t u) bad := by
  unfold Agree
  simp only [ends_onBook, Book.ends_noteTag]
  exact ⟨abreast.alike, abreast.data, abreast.connected, abreast.autocommit⟩

theorem agree_abandon (tag : String) (e : Error) (abreast : Abreast steady turn other)
    {good : Int → Turn σ → Int → Turn σ → Prop} :
    Agree (abandon setup tag e) turn (abandon setup tag e) other good
      (fun e t e' u => e = e' ∧ Abreast steady t u) := by
  apply (agree_noteTag _ tag abreast).bind
  intro _ t _ u abreast
  apply (agree_closing "ROLLBACK" abreast (steady.rollback abreast.alike)).bind
  exact fun _ _ _ _ abreast => ⟨rfl, abreast⟩

theorem ends_createAll {library : Library} {texts : List String}
    (accepts : ∀ text ∈ texts, (setup.compiler library).Accepts steady text) :
    Ends (createAll setup texts) turn
      (fun statements t => (∃ conn, t = { turn with conn } ∧ steady.Alike turn.conn conn) ∧
        List.Forall₂ (steady.Made (setup.style.getD setup.connection.style) setup.placement t.conn)
          texts statements)
      (fun _ _ => False) := by
  have each (text : String) (member : text ∈ texts) (s : σ)
      (_ : steady.Alike turn.conn s ∧ steady.Keeps turn.conn s) :
      Ends (Statement.create setup.connection setup.style setup.placement text) s
        (fun st t => (steady.Alike s t ∧ steady.Keeps s t) ∧
          steady.Made (setup.style.getD setup.connection.style) setup.placement t text st)
        (fun _ t => (steady.Alike s t ∧ steady.Keeps s t) ∧ False) := by
    obtain ⟨d, drafted, unrefused, -⟩ := accepts text member
    apply (steady.ends_create setup.style setup.placement text s).imp
    · exact fun _ _ made => ⟨made.1, made.2.1⟩
    · exact fun _ _ failed => (failed.2 d drafted unrefused).elim
  let m := (setup.compiler library).quiet steady
  simp only [createAll, ends_onBook, Book.ends_onDesk, Desk.ends_onConn]
  apply (ends_mapM m.refl m.trans ?_ texts turn.conn each).imp
  · exact fun _ conn made => ⟨⟨conn, rfl, made.1.1⟩, made.2⟩
  · exact fun _ _ failed => failed.2.elim
  · exact fun made moved => made.of_keeps moved.2

theorem agree_runChain {tag : String} {texts : List String} {chain : Chain}
    {statements : List Statement} (abreast : Abreast steady turn other)
    (kept : Compiler.Kept ((setup.compiler turn.library).quiet steady) turn.toDesk)
    (within : turn.library.Within (setup.maxDepth - 1 + 1) tag)
    (sound : turn.library.Sound ((setup.compiler turn.library).Accepts steady) tag)
    (flat : turn.library.FlatOf tag texts)
    (made : List.Forall₂
      (steady.Made (setup.style.getD setup.connection.style) setup.placement other.conn)
      texts statements)
    (counts : turn.library.chain? turn.cache tag = some chain) :
    Agree (runChain setup tag chain) turn
      (onStage (Statement.runAll setup.connection statements)) other
      (fun n t m u => n = m ∧ Abreast steady t u)
      (fun e t e' u => e = e' ∧ Abreast steady t u) := by
  have ran : Call.InStep (c := setup.compiler turn.library) steady
      (Call.runChain (setup.compiler turn.library) setup.maxDepth chain)
      ⟨turn.toDesk, turn.data, .start tag⟩ statements other.stage :=
    Call.inStep_runChain setup.maxDepth within sound flat rfl kept ⟨abreast.alike, abreast.data⟩
      made counts
  unfold Agree
  simp only [ends_runChain, onStage, ends_focus]
  apply Agree.imp ran
  · intro _ t n u ended
    obtain ⟨goes, counted⟩ := ended
    refine ⟨counted.trans (Int.zero_add n), goes.abreast.alike, goes.abreast.data, ?_, ?_⟩
    · exact abreast.connected
    · exact abreast.autocommit
  · intro e t e' u failed
    obtain ⟨rfl, alike, data⟩ := failed
    exact ⟨rfl, alike, data, abreast.connected, abreast.autocommit⟩

theorem agree_executeTexts {tag : String} {texts : List String}
    (abreast : Abreast steady turn other) (up : turn.connected = true)
    (kept : Compiler.Kept ((setup.compiler turn.library).quiet steady) turn.toDesk)
    (within : turn.library.Within (setup.maxDepth - 1 + 1) tag)
    (sound : turn.library.Sound ((setup.compiler turn.library).Accepts steady) tag)
    (flat : turn.library.FlatOf tag texts) :
    Agree (execute setup tag) turn (executeTexts setup tag texts) other
      (fun n t m u => n = m ∧ Abreast steady t u)
      (fun e t e' u => e = e' ∧ Abreast steady t u) := by
  -- The chain is obtained first, then the statements of the flat run are made.
  apply Agree.of_left
  simp only [ends_onBook, Book.get, ends_bind, Book.ends_ensureConnected, if_pos up,
    Book.ends_library?, Book.ends_onDesk]
  apply (Compiler.ends_get ((setup.compiler turn.library).quiet steady)
    (Compiler.foresees_of_accepts (setup.compiler turn.library) steady) tag sound turn.toDesk).imp
  · intro chain desk ended
    obtain ⟨steps, counts⟩ := ended
    have alike := steady.alike.trans (steady.alike.symm steps.moves.1) abreast.alike
    apply Agree.of_left
    simp only [ends_onBook, Book.ends_noteTag]
    apply Agree.of_right
    apply (ends_createAll (sound.fine_of_flat flat)).imp
    · intro statements _ ended
      obtain ⟨⟨conn, rfl, moved⟩, made⟩ := ended
      have abreast' : Abreast steady { turn with toDesk := desk } { other with conn } :=
        ⟨steady.alike.trans alike moved, abreast.data, abreast.connected, abreast.autocommit⟩
      generalize noted : Turn.mk (Book.mk _ _ _ _) turn.data = turn'
      have ran : Agree (runChain setup tag chain) turn'
          (onStage (Statement.runAll setup.connection statements)) { other with conn }
          (fun n t m u => n = m ∧ Abreast steady t u)
          (fun e t e' u => e = e' ∧ Abreast steady t u) := by
        subst noted
        obtain ⟨alike, data, connected, autocommit⟩ := abreast'
        exact agree_runChain ⟨alike, data, connected, autocommit⟩ (steps.kept kept) within sound
          flat made counts
      apply (agree_rescue ran ?_).bind
      · intro n t _ u ended
        obtain ⟨rfl, abreast⟩ := ended
        apply agree_get_bind
        simp only [abreast.autocommit]
        split
        · apply (agree_closing "COMMIT" abreast (steady.commit abreast.alike)).bind
          exact fun _ _ _ _ abreast => ⟨rfl, abreast⟩
        · exact ⟨rfl, abreast⟩
      · intro e t _ u failed
        obtain ⟨rfl, abreast⟩ := failed
        exact agree_abandon tag e abreast
    · exact fun _ _ no => no.elim
  · exact fun _ _ failed => failed.2.2

end Turn

end QueryBook
