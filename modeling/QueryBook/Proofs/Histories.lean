import QueryBook.Proofs.Books

set_option autoImplicit false

namespace QueryBook

inductive Use where
  | add (tag sql : String)
  | remove (tag : String)
  | prepare (tags : List String)
  | compile (tag : String)
  | get (tag : String)
  | execute (tag : String) (data : Fields)
  | lookup (tag : String)
  | hasTag (tag : String)
  | invalidate (tag : String)
  | clear
  | commit
  | rollback
  | setAutocommit (enabled : Bool)
  | disconnect

def Use.compiles : Use → Bool
  | .prepare _ | .compile _ | .get _ | .execute _ _ => true
  | _ => false

def Use.advances : Use → Bool
  | .prepare _ | .get _ | .execute _ _ | .lookup _ | .hasTag _ | .commit | .rollback => true
  | _ => false

namespace Book

variable {σ : Type}

def execute (setup : Setup σ) (tag : String) (data : Fields) : Action (Book σ) Unit := fun book =>
  match Turn.execute setup tag ⟨book, data⟩ with
  | .ok _ t => .ok () t.toBook
  | .error e t => .error e t.toBook

def use (setup : Setup σ) : Use → Action (Book σ) Unit
  | .add tag sql => add tag sql
  | .remove tag => remove tag
  | .prepare tags => prepare setup tags
  | .compile tag => discard (compile setup tag)
  | .get tag => discard (get setup tag)
  | .execute tag data => execute setup tag data
  | .lookup tag => discard (lookup tag)
  | .hasTag tag => discard (hasTag tag)
  | .invalidate tag => onCatalog (Catalog.invalidate tag)
  | .clear => onCatalog Catalog.clear
  | .commit => commit setup
  | .rollback => rollback setup
  | .setAutocommit enabled => setAutocommit enabled
  | .disconnect => disconnect setup

def after (setup : Setup σ) : Book σ → List Use → Book σ
  | book, [] => book
  | book, u :: rest => after setup ((use setup u).outcome book).2 rest

theorem after_append (setup : Setup σ) (book : Book σ) (uses later : List Use) :
    after setup book (uses ++ later) = after setup (after setup book uses) later := by
  induction uses generalizing book with
  | nil => rfl
  | cons u rest ih => exact ih _

theorem after_induction {setup : Setup σ} {Inv : Book σ → Prop} {allowed : Use → Prop}
    (step : ∀ u, allowed u → ∀ book, Inv book → Action.EndsIn (use setup u) book Inv)
    {uses : List Use} {book : Book σ} (each : ∀ u ∈ uses, allowed u) (first : Inv book) :
    Inv (after setup book uses) := by
  induction uses generalizing book with
  | nil => exact first
  | cons u rest ih =>
    have ends := step u (each u (by simp)) book first
    exact ih (fun other member => each other (List.mem_cons_of_mem _ member)) ends.outcome

theorem ends_compileUse {setup : Setup σ} {tag : String} {book : Book σ}
    {good : Unit → Book σ → Prop} {bad : Error → Book σ → Prop} :
    Action.Ends (use setup (.compile tag)) book good bad ↔
      if book.connected then
        Action.Ends ((setup.compiler book.library).compile tag) book.toDesk
          (fun _ desk => good () { book with toDesk := desk })
          (fun e desk => bad e { book with toDesk := desk })
      else bad .disconnected book := by
  simp only [use, compile, Action.ends_discard, Action.ends_bind, ends_ensureConnected,
    ends_library?, ends_onDesk]

@[simp] theorem ends_executeUse {setup : Setup σ} {tag : String} {data : Fields} {book : Book σ}
    {good : Unit → Book σ → Prop} {bad : Error → Book σ → Prop} :
    Action.Ends (execute setup tag data) book good bad ↔
      Action.Ends (Turn.execute setup tag) ⟨book, data⟩ (fun _ t => good () t.toBook)
        (fun e t => bad e t.toBook) := by
  simp only [Action.Ends, execute]
  cases Turn.execute setup tag ⟨book, data⟩ <;> rfl

theorem ends_use_advances {setup : Setup σ} {library : Library}
    {m : (setup.compiler library).Making} (moved : setup.connection.MovesBy m.Moves) {u : Use}
    (advances : u.advances = true) {book : Book σ} (same : book.library = library) :
    Action.EndsIn (use setup u) book (Advances m book) := by
  have noted (journal : Journal) : Advances m book { book with journal } :=
    .of_asked journal same (m.refl _)
  cases u with
  | prepare tags =>
    apply (ends_prepare (Compiler.foresees_any _) (fun _ _ => trivial) same).imp
    · exact fun _ _ prepared => prepared.1
    · exact fun _ _ failed => failed.1
  | get tag =>
    simp only [use, Action.ends_discard]
    apply (ends_get (Compiler.foresees_any _) tag trivial same).imp
    · exact fun _ _ got => got.2.1
    · exact fun _ _ failed => failed.1
  | execute tag data =>
    simp only [use, ends_executeUse]
    exact Turn.ends_execute moved tag ⟨book, data⟩ same
  | lookup tag =>
    simp only [use, lookup, Action.ends_discard, Action.ends_bind, ends_library?, ends_onCatalog]
    apply Catalog.ends_lookup
    exact noted
  | hasTag tag =>
    simp only [use, hasTag, toc, Action.ends_discard, Action.ends_bind, ends_ensureConnected,
      ends_library?, ends_onCatalog, Action.ends_pure]
    split
    · apply Catalog.ends_conclude
      · exact fun _ journal _ => noted journal
      · exact fun _ journal _ => noted journal
    · exact .refl same
  | commit =>
    exact (ends_closing "COMMIT" book same .commit moved.commit).imp (fun _ _ advanced => advanced)
      fun _ _ failed => failed.1
  | rollback =>
    exact (ends_closing "ROLLBACK" book same .rollback moved.rollback).imp
      (fun _ _ advanced => advanced) fun _ _ failed => failed.1
  | _ => cases advances

end Book

end QueryBook
