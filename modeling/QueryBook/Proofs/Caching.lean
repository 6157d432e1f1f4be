import QueryBook.Proofs.Includes

set_option autoImplicit false

namespace QueryBook

open QueryBook.Action Connection

namespace Library

variable {library later : Library} {fine : String → Prop} {tag : String}
  (same : ∀ tag, later.template tag = library.template tag)
include same

theorem includes_of_template : later.Includes = library.Includes := by
  funext tag inner
  simp only [Includes, HasBlock, same]

theorem Within.of_template {n : Nat} (within : library.Within n tag) : later.Within n tag := by
  induction n generalizing tag with
  | zero => exact within
  | succ n ih =>
    intro inner includes
    rw [includes_of_template same] at includes
    exact ih (within inner includes)

theorem Sound.of_template (sound : library.Sound fine tag) : later.Sound fine tag := by
  induction sound with
  | intro found blocks statements _ ih =>
    refine .intro ((same _).trans found) blocks statements fun inner includes => ?_
    rw [includes_of_template same] at includes
    exact ih inner includes

theorem Flattens.of_template {blocks texts : List String} (flat : library.Flattens blocks texts) :
    later.Flattens blocks texts := by
  induction flat with
  | nil => exact .nil
  | statement plain _ ih => exact .statement plain ih
  | inclusion named found _ _ ihWithin ih =>
    exact .inclusion named ((same _).trans found) ihWithin ih

theorem FlatOf.of_template {texts : List String} (flat : library.FlatOf tag texts) :
    later.FlatOf tag texts := by
  obtain ⟨body, found, flat⟩ := flat
  exact ⟨body, (same tag).trans found, flat.of_template same⟩

end Library

namespace Compiler

variable {σ : Type}

-- Whatever has been run could be compiled, and was not too deep.
def runTour (c : Compiler σ) (steady : c.connection.ByText) :
    Call.Tour (c.working steady) (fun _ => True) (fun _ => True) where
  Holds := Kept (c.working steady)
  Enters := fun _ _ => True
  Ran := fun n tag => c.library.Sound (c.Accepts steady) tag ∧ c.library.Within n tag
  kept := Steps.kept
  fine := fun _ => trivial
  cyclic := fun _ _ => trivial
  deep := fun _ _ _ => trivial
  late := fun _ _ => trivial
  inward := fun _ _ _ _ _ => trivial
  ran := by
    intro desk tag chain room kept counts ran
    have chainOf := kept tag chain counts
    constructor
    · exact .of_chainOf chainOf (fun _ _ known => known.2) fun inner member => (ran inner member).1
    · exact fun inner includes => (ran inner (chainOf.mem_includes_iff.mpr includes)).2

end Compiler

namespace Turn

variable {σ : Type} {setup : Setup σ}

theorem ends_execute_sound (steady : setup.connection.ByText) (tag : String) (turn : Turn σ)
    (kept : Compiler.Kept ((setup.compiler turn.library).working steady) turn.toDesk) :
    Ends (execute setup tag) turn
      (fun _ _ => turn.library.Sound ((setup.compiler turn.library).Accepts steady) tag ∧
        turn.library.Within (setup.maxDepth - 1 + 1) tag)
      (fun _ _ => True) := by
  let tour := (setup.compiler turn.library).runTour steady
  simp only [execute, ends_bind, ends_onBook, Book.ends_noteTag, ends_rescue]
  apply (Book.ends_get (m := (setup.compiler turn.library).working steady)
    (Compiler.foresees_any _) tag trivial (rfl : turn.toBook.library = turn.library)).imp
  · intro chain book ended
    obtain ⟨-, advanced, counts⟩ := ended
    apply (ends_runChain_advances steady.keeps.toWorksBy (Compiler.foresees_any _) tour
      (noted { turn with toBook := book } ("EXECUTE " ++ tag) tag) advanced.library
      (advanced.steps.kept kept) trivial counts).imp
    · intro n t ended
      obtain ⟨-, ran⟩ := ended
      simp only [ends_get]
      split
      · simp only [ends_bind, ends_pure]
        exact (ends_self _ t).imp (fun _ _ _ => ran) fun _ _ _ => trivial
      · exact ran
    · intro e t _
      exact (ends_abandon_fails setup tag e t).imp (fun _ _ no => no.elim) fun _ _ _ => trivial
  · exact fun _ _ _ => trivial

end Turn

namespace Book

variable {σ : Type} {setup : Setup σ} {book : Book σ}

def anew (book : Book σ) (library : Library) (link : Link σ) : Book σ where
  cache := []
  journal := link.journal
  conn := link.conn
  library
  connected := true
  autocommit := book.autocommit

theorem kept_anew (steady : setup.connection.ByText) (book : Book σ) (library : Library)
    (link : Link σ) :
    Compiler.Kept ((setup.recorded.compiler library).working steady.recorded)
      (book.anew library link).watched.toDesk := by
  intro tag chain counts
  cases counts

theorem stocked_after (steady : setup.connection.ByText) {uses : List Use}
    (edits : ∀ u ∈ uses, u ≠ .disconnect) (stocked : Stocked steady book)
    (up : book.connected = true) :
    Stocked steady (after setup book uses) ∧ (after setup book uses).connected = true := by
  have step (u : Use) (edits : u ≠ .disconnect) (book : Book σ)
      (known : Stocked steady book ∧ book.connected = true) :
      EndsIn (use setup u) book (fun t => Stocked steady t ∧ t.connected = true) := by
    have used {t : Book σ} (used : Used steady u book t) : Stocked steady t ∧ t.connected = true :=
      ⟨used.stocked, (used.connected edits).trans known.2⟩
    exact (ends_use_stocked known.1 u).mono fun _ => used
  exact after_induction step edits ⟨stocked, up⟩

end Book

namespace Turn

variable {σ : Type} {setup : Setup σ}

/-- What is cached makes no difference: the execution does what it does on a new book. -/
theorem execute_cached (steady : setup.connection.ByText) (templates : List (String × String))
    (tree : FileTree) (link : Link σ) (autocommit : Bool) {uses : List Use}
    (edits : ∀ u ∈ uses, u ≠ .disconnect) (library : Library) (newLink : Link σ) (tag : String)
    (data : Fields) :
    let book := Book.after setup (.inMemory templates tree link autocommit) uses
    (∀ tag, library.template tag = book.library.template tag) →
    steady.Alike book.conn newLink.conn →
    Agree (execute setup.recorded tag) ⟨book.watched, data⟩
      (execute setup.recorded tag) ⟨(book.anew library newLink).watched, data⟩
      (fun n t m u => n = m ∧ t.data = u.data ∧ t.conn.effects = u.conn.effects)
      (fun _ _ _ _ => True) := by
  intro book same alike
  obtain ⟨stocked, up⟩ := Book.stocked_after steady edits
    (Book.stocked_inMemory steady templates tree link autocommit) rfl
  let steady' : setup.recorded.connection.ByText := steady.recorded
  have keptOld := Book.kept_watched stocked
  have keptNew := Book.kept_anew steady book library newLink
  by_cases runs :
      book.library.Sound ((setup.recorded.compiler book.library).Accepts steady') tag ∧
        book.library.Within (setup.maxDepth - 1 + 1) tag
  · obtain ⟨sound, within⟩ := runs
    obtain ⟨texts, flat⟩ := sound.exists_flat
    have abreast : Abreast steady' ⟨book.watched, data⟩
        ⟨(book.anew library newLink).watched, data⟩ := ⟨⟨alike, rfl⟩, rfl, up, rfl⟩
    have abreastNew : Abreast steady' ⟨(book.anew library newLink).watched, data⟩
        ⟨(book.anew library newLink).watched, data⟩ :=
      ⟨steady'.alike.refl _, rfl, rfl, rfl⟩
    have agreeOld := agree_executeTexts abreast up keptOld within sound flat
    have agreeNew := agree_executeTexts abreastNew rfl keptNew (within.of_template same)
      (sound.of_template same) (flat.of_template same)
    apply agreeOld.meet agreeNew
    · intro n t m u _ v ended ended'
      obtain ⟨rfl, first⟩ := ended
      obtain ⟨rfl, second⟩ := ended'
      exact ⟨rfl, first.data.trans second.data.symm, first.alike.2.trans second.alike.2.symm⟩
    · exact fun _ _ _ _ _ _ _ _ => trivial
  · have endsOld := ends_execute_sound steady' tag ⟨book.watched, data⟩ keptOld
    have endsNew := ends_execute_sound steady' tag ⟨(book.anew library newLink).watched, data⟩
      keptNew
    have back (tag : String) : book.library.template tag = library.template tag := (same tag).symm
    apply endsOld.imp
    · exact fun _ _ ran => (runs ran).elim
    · exact fun _ _ _ => endsNew.imp
        (fun _ _ ran => (runs ⟨ran.1.of_template back, ran.2.of_template back⟩).elim)
        fun _ _ _ => trivial

end Turn

namespace Book

theorem library_execute {σ : Type} {setup : Setup σ} (steady : setup.connection.ByText)
    (tag : String) (data : Fields) (book : Book σ) :
    ((use setup (.execute tag data)).outcome book).2.library = book.library := by
  let m := (setup.compiler book.library).working steady
  have ends : EndsIn (use setup (.execute tag data)) book (fun t => t.library = book.library) := by
    simp only [use, ends_executeUse]
    exact (Turn.ends_execute (m := m) steady.keeps tag ⟨book, data⟩ rfl).mono
      fun _ advanced => advanced.library
  exact ends.outcome

end Book

namespace Turn

-- The chain of the inner tag is out of date when the outer one is executed again.
theorem execute_cached_edited :
    let uses : List Use := [.execute "outer" [], .add "inner" "y"]
    let book := Book.after Book.silentSetup Book.nestedBook uses
    let library := Library.nested.add "inner" "y"
    let link : Link Script.Played := ⟨⟨[], []⟩, []⟩
    (∀ u ∈ uses, u ≠ .disconnect) ∧
    (∀ tag, library.template tag = book.library.template tag) ∧
    (Script.byText _ _ : Book.silentSetup.connection.ByText).Alike book.conn link.conn ∧
    Agree (execute Book.silentSetup.recorded "outer") ⟨book.watched, []⟩
      (execute Book.silentSetup.recorded "outer") ⟨(book.anew library link).watched, []⟩
      (fun n t m u => n = m ∧ t.data = u.data ∧ t.conn.effects = u.conn.effects)
      (fun _ _ _ _ => True) := by
  intro uses book library link
  have edits : ∀ u ∈ uses, u ≠ .disconnect := by simp [uses]
  have steady : Book.silentSetup.connection.ByText := Script.byText _ _
  have same (tag : String) : library.template tag = book.library.template tag := by
    have edited : book.library = (((Book.use Book.silentSetup (.execute "outer" [])).outcome
        Book.nestedBook).2.library).add "inner" "y" :=
      rfl
    rw [edited, Book.library_execute steady]
    rfl
  exact ⟨edits, same, trivial,
    execute_cached (Script.byText _ _) _ _ _ _ edits library link "outer" [] same trivial⟩

end Turn

end QueryBook
