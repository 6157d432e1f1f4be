import QueryBook.Proofs.Histories

set_option autoImplicit false

namespace QueryBook

open QueryBook.Action

def Use.edits : Use → Bool
  | .add _ _ | .remove _ => true
  | _ => false

namespace Cache

variable {P : String → CacheEntry → Chain → Prop} {cache : Cache} {tag : String} {new : CacheEntry}

def Every (P : String → CacheEntry → Chain → Prop) (cache : Cache) : Prop :=
  ∀ tag entry chain, cache.get? tag = some entry → entry.chain = some chain → P tag entry chain

theorem every_nil (P : String → CacheEntry → Chain → Prop) : Every P [] := by
  intro tag entry chain held
  simp at held

theorem Every.put (every : Every P cache)
    (good : ∀ chain, new.chain = some chain → P tag new chain) : Every P (cache.put tag new) := by
  intro other entry chain held made
  rw [Keyed.get?_put] at held
  split at held
  next same =>
    cases held
    exact same ▸ good chain made
  next => exact every other entry chain held made

theorem Every.erase (every : Every P cache) (tag : String) : Every P (cache.erase tag) := by
  intro other entry chain held
  by_cases same : other = tag
  · simp [same] at held
  · exact every other entry chain ((Keyed.get?_erase_of_ne _ same).symm.trans held)

end Cache

namespace Compiler

variable {σ : Type} {c : Compiler σ} {m : c.Making} {Holds : Desk σ → Prop} {desk t : Desk σ}

structure Lasting (m : c.Making) (Holds : Desk σ → Prop) : Prop where
  step : ∀ {desk t}, Step m desk t → Holds desk → Holds t
  reset : ∀ {desk : Desk σ} {tag : String} {source : Source} (journal : Journal),
    (c.library.shelf.resolve c.library.tree tag).result = .ok source → Holds desk →
    Holds { desk with
      cache := desk.cache.put tag ⟨source, c.library.fingerprint source, none⟩, journal }
  erase : ∀ {desk : Desk σ} (tag : String), Holds desk →
    Holds { desk with cache := desk.cache.erase tag }
  fresh : ∀ {desk t : Desk σ}, t.cache = [] → Holds desk → Holds t

theorem Lasting.steps (lasting : Lasting m Holds) (holds : Holds desk) (steps : Steps m desk t) :
    Holds t := by
  induction steps with
  | refl => exact holds
  | tail _ step ih => exact lasting.step step ih

theorem Lasting.and {Also : Desk σ → Prop} (first : Lasting m Holds) (second : Lasting m Also) :
    Lasting m fun desk => Holds desk ∧ Also desk where
  step := fun step holds => ⟨first.step step holds.1, second.step step holds.2⟩
  reset := fun journal resolved holds =>
    ⟨first.reset journal resolved holds.1, second.reset journal resolved holds.2⟩
  erase := fun tag holds => ⟨first.erase tag holds.1, second.erase tag holds.2⟩
  fresh := fun empty holds => ⟨first.fresh empty holds.1, second.fresh empty holds.2⟩

theorem kept_of_fresh (fresh : desk.cache = []) : Kept m desk := by
  intro tag chain counts
  simp [fresh] at counts

theorem lasting_kept (m : c.Making) : Lasting m (Kept m) where
  step := Step.kept
  reset := fun _ _ kept other chain counts => kept other chain (Library.chain?_of_found counts)
  erase := fun _ kept other chain counts => kept other chain (Library.chain?_of_erase counts)
  fresh := fun empty _ => kept_of_fresh empty

theorem ends_compile_lasting (lasting : Lasting m Holds) (holds : Holds desk) (tag : String) :
    EndsIn (c.compile tag) desk Holds := by
  apply (ends_compile m c.foresees_any tag trivial desk).imp
  · intro chain t ended
    obtain ⟨⟨source, journal, resolved, steps⟩, -⟩ := ended
    exact lasting.steps (lasting.reset journal resolved holds) steps
  · intro e t failed
    rcases failed with ⟨steps | ⟨source, journal, resolved, steps⟩, -⟩
    · exact lasting.steps holds steps
    · exact lasting.steps (lasting.reset journal resolved holds) steps

end Compiler

open Compiler

namespace Book

variable {σ : Type} {setup : Setup σ} {library : Library} {m : (setup.compiler library).Making}
  {Holds : Desk σ → Prop} {book : Book σ}

structure Lasts (Holds : Desk σ → Prop) (u : Use) (book t : Book σ) : Prop where
  library : t.library = book.library
  holds : Holds t.toDesk
  connected : u ≠ .disconnect → t.connected = book.connected

theorem ends_use_lasting (moved : setup.connection.MovesBy m.Moves) (lasting : Lasting m Holds)
    {u : Use} (unchanged : u.edits = false) (same : book.library = library)
    (holds : Holds book.toDesk) :
    EndsIn (use setup u) book (Lasts Holds u book) := by
  subst same
  have advanced {u : Use} (advances : u.advances = true) :
      EndsIn (use setup u) book (Lasts Holds u book) := by
    have lasts {t : Book σ} (advances : Advances m book t) : Lasts Holds u book t :=
      ⟨advances.library, lasting.steps holds advances.steps, fun _ => advances.connected⟩
    exact (ends_use_advances moved advances rfl).mono fun _ => lasts
  cases u with
  | add tag sql => cases unchanged
  | remove tag => cases unchanged
  | compile tag =>
    simp only [ends_compileUse]
    split
    · apply (ends_compile_lasting lasting holds tag).imp
      · exact fun _ _ holds => ⟨rfl, holds, fun _ => rfl⟩
      · exact fun _ _ holds => ⟨rfl, holds, fun _ => rfl⟩
    · exact ⟨rfl, holds, fun _ => rfl⟩
  | invalidate tag => exact ⟨rfl, lasting.erase tag holds, fun _ => rfl⟩
  | clear => exact ⟨rfl, lasting.fresh rfl holds, fun _ => rfl⟩
  | setAutocommit enabled => exact ⟨rfl, holds, fun _ => rfl⟩
  | disconnect =>
    have gone {t : Book σ} (same : t.library = book.library) (fresh : t.cache = []) :
        Lasts Holds .disconnect book t :=
      ⟨same, lasting.fresh fresh holds, fun other => (other rfl).elim⟩
    simp only [use, disconnect, ends_bind, Action.ends_get, ends_modify, ends_onCatalog,
      Catalog.clear]
    split
    · simp only [ends_bind, ends_note, ends_ask]
      exact (ends_self _ _).imp (fun _ _ _ => gone rfl rfl) fun _ _ _ => gone rfl rfl
    · exact gone rfl rfl
  | _ => exact advanced rfl

theorem lasts_after (moved : setup.connection.MovesBy m.Moves) (lasting : Lasting m Holds)
    {uses : List Use} (unchanged : ∀ u ∈ uses, u.edits = false) (same : book.library = library)
    (holds : Holds book.toDesk) :
    (after setup book uses).library = library ∧ Holds (after setup book uses).toDesk := by
  have step (u : Use) (unchanged : u.edits = false) (book : Book σ)
      (before : book.library = library ∧ Holds book.toDesk) :
      EndsIn (use setup u) book (fun t => t.library = library ∧ Holds t.toDesk) := by
    obtain ⟨same, holds⟩ := before
    exact (ends_use_lasting moved lasting unchanged same holds).mono
      fun _ lasts => ⟨lasts.library.trans same, lasts.holds⟩
  exact after_induction step unchanged ⟨same, holds⟩

end Book

end QueryBook
