import QueryBook.Proofs.Deeds
import QueryBook.Proofs.Explaining

set_option autoImplicit false

namespace QueryBook

open QueryBook.Action Connection Compiler

theorem Statement.ends_execute_idle {σ : Type} (conn : Connection σ) (s : Statement)
    (stage : Stage σ) :
    EndsIn (s.execute conn) stage
      (fun t => ∃ idle : Journal, (∀ r ∈ idle, r.Idle) ∧ t.journal = stage.journal ++ idle) := by
  apply (progressBy (Connection.MovesBy.any conn).toWorksBy s stage.conn stage.data).ends_execute.imp
  · exact fun _ _ ended => ended.1.idle
  · exact fun _ _ failed => failed.2.1.idle

def Desk.Explained {σ : Type} (desk : Desk (Observed σ)) : Prop :=
  desk.cache.Every fun _ _ chain =>
    ∀ s, .statement s ∈ chain.entries → s.Explained desk.conn.jobs

namespace Desk

variable {σ : Type} {desk t : Desk (Observed σ)}

theorem Explained.grow (explained : desk.Explained) (same : t.cache = desk.cache)
    (grows : desk.conn.jobs <+: t.conn.jobs) : t.Explained := by
  intro tag entry chain held made s member
  rw [same] at held
  exact (explained tag entry chain held made s member).mono grows

theorem Explained.of_counts (explained : desk.Explained) {library : Library} {tag : String}
    {chain : Chain} (counts : library.chain? desk.cache tag = some chain) {s : Statement}
    (member : .statement s ∈ chain.entries) : s.Explained desk.conn.jobs := by
  obtain ⟨entry, stamp, held, made, -⟩ := Library.exists_entry_of_chain? counts
  exact explained tag entry chain held made s member

end Desk

namespace Compiler

variable {σ : Type} {c : Compiler (Observed σ)}

def explaining (validates : c.connection.Validates) : c.Making where
  Known := fun conn _ s => s.Explained conn.jobs
  Moves := fun s t => s.jobs <+: t.jobs
  refl := fun s => List.prefix_refl s.jobs
  trans := List.IsPrefix.trans
  known_of_moves := fun explained grows => explained.mono grows
  makes := fun block s =>
    (Statement.ends_create_works validates c.style c.placement block s).imp
      (fun _ _ created => ⟨created.1.grows, fun _ => created.2⟩) fun _ _ failed => failed.grows

theorem lasting_explained (validates : c.connection.Validates) :
    Lasting (c.explaining validates) Desk.Explained where
  step := by
    intro desk t step explained
    cases step with
    | asked conn journal moved => exact explained.grow rfl moved
    | found tag source => exact Cache.Every.put explained fun _ made => by cases made
    | stored tag source chain resolved unmade made =>
      refine Cache.Every.put explained fun chain' same s member => ?_
      cases same
      obtain ⟨body, -, entries⟩ := made.blocks
      obtain ⟨block, -, entry⟩ := Library.exists_of_mem_forall₂ entries member
      cases entry with
      | statement _ known => exact known
  reset := fun _ _ explained => Cache.Every.put explained fun _ made => by cases made
  erase := fun tag explained => Cache.Every.erase explained tag
  fresh := by
    intro desk t empty _
    rw [Desk.Explained, empty]
    exact Cache.every_nil _

structure Proceeds (desk t : Desk (Observed σ)) : Prop where
  works : desk.conn.Works t.conn
  leaves : Catalog.Leaves [] [] desk.toCatalog t.toCatalog
  explained : desk.Explained → t.Explained

structure Halts (c : Compiler (Observed σ)) (e : Error) (desk t : Desk (Observed σ)) : Prop where
  fails : desk.conn.Fails e t.conn
  stopped : ∃ way, Stopped c [] way desk t

variable {desk t u : Desk (Observed σ)} {e : Error}

theorem Proceeds.refl (desk : Desk (Observed σ)) : Proceeds desk desk :=
  ⟨.refl desk.conn, .of_idle [] (by simp) (by simp) rfl, id⟩

theorem Proceeds.trans (first : Proceeds desk t) (second : Proceeds t u) : Proceeds desk u :=
  ⟨first.works.trans second.works, first.leaves.trans second.leaves,
    second.explained ∘ first.explained⟩

theorem Proceeds.of_idle (desk : Desk (Observed σ)) {r : Record} (idle : r.Idle) :
    Proceeds desk { desk with journal := desk.journal ++ [r] } :=
  ⟨.refl desk.conn, .of_idle [r] (by simpa using idle) rfl rfl, id⟩

theorem Proceeds.halts (proceeds : Proceeds desk t) (e : Error) : Halts c e desk t :=
  ⟨.inl proceeds.works, [], .of_leaves .nil proceeds.leaves⟩

theorem Halts.after (first : Proceeds desk t) (halts : Halts c e t u) : Halts c e desk u := by
  obtain ⟨fails, way, stopped⟩ := halts
  exact ⟨fails.after first.works, way, stopped.after first.leaves⟩

theorem ends_compileUnder_halts (validates : c.connection.Validates) (tag : String)
    (desk : Desk (Observed σ)) (unmade : c.library.chain? desk.cache tag = none) :
    Ends (c.compileUnder [] tag (by simp)) desk
      (fun chain t => Proceeds desk t ∧ c.library.chain? t.cache tag = some chain)
      (fun e t => Halts c e desk t) := by
  have lasting := lasting_explained validates
  apply (((heeds_compileUnder validates [] tag (by simp) desk).and
    (ends_compileUnder_leaves c [] tag (by simp) (.singleton tag) desk unmade)).and
    (ends_compileUnder (c.explaining validates) c.foresees_any [] .nil tag (by simp)
      (.singleton tag) trivial desk unmade)).imp
  · intro chain t ended
    obtain ⟨⟨works, leaves⟩, apart, counts, -⟩ := ended
    exact ⟨⟨works, leaves, fun explained => lasting.steps explained apart.steps⟩, counts⟩
  · intro e t failed
    obtain ⟨⟨fails, way, stopped⟩, -⟩ := failed
    exact ⟨fails, _, stopped⟩

theorem ends_get_halts (validates : c.connection.Validates) (tag : String)
    (desk : Desk (Observed σ)) :
    Ends (c.get tag) desk
      (fun chain t => Proceeds desk t ∧ c.library.chain? t.cache tag = some chain)
      (fun e t => Halts c e desk t) := by
  simp only [get, ends_bind, Desk.ends_onCatalog]
  apply Catalog.ends_lookup_idle
  intro r idle
  have looked := Proceeds.of_idle desk idle
  cases counts : c.library.chain? desk.cache tag with
  | some chain => exact ⟨looked, counts⟩
  | none =>
    apply (ends_compileUnder_halts validates tag { desk with journal := desk.journal ++ [r] }
      counts).imp
    · exact fun _ _ ended => ⟨looked.trans ended.1, ended.2⟩
    · exact fun _ _ halts => halts.after looked

theorem ends_compile_halts (validates : c.connection.Validates) (tag : String)
    (desk : Desk (Observed σ)) :
    Ends (c.compile tag) desk (fun _ t => desk.conn.Works t.conn)
      (fun e t => desk.conn.Works t.conn ∨ Halts c e desk t) := by
  apply ((heeds_compileUnder validates [] tag (by simp) desk).and
    (ends_compile_leaves c tag desk)).imp
  · exact fun _ _ ended => ended.1
  · intro e t failed
    obtain ⟨fails, ⟨way, stopped⟩ | same⟩ := failed
    · exact .inr ⟨fails, _, stopped⟩
    · exact .inl (same ▸ .refl desk.conn)

end Compiler

namespace Call

variable {σ : Type} {c : Compiler (Observed σ)}

def Heeds (c : Compiler (Observed σ)) (act : Action (Call (Observed σ)) Unit) : Prop :=
  ∀ call, call.Explained →
    Ends act call (fun _ t => Proceeds call.toDesk t.toDesk)
      (fun e t => Halts c e call.toDesk t.toDesk)

theorem ends_runStatement_halts (validates : c.connection.Validates) (s : Statement)
    (call : Call (Observed σ)) (explained : s.Explained call.conn.jobs) :
    Ends (runStatement c.connection s) call (fun _ t => Proceeds call.toDesk t.toDesk)
      (fun e t => Halts c e call.toDesk t.toDesk) := by
  have left {t : Stage (Observed σ)} (idle : ∃ idle : Journal, (∀ r ∈ idle, r.Idle) ∧
      t.journal = call.journal ++ idle) :
      Catalog.Leaves [] [] call.toCatalog (call.setStage t).toCatalog := by
    obtain ⟨idle, rests, noted⟩ := idle
    exact .of_idle idle rests noted rfl
  simp only [runStatement, ends_bind, ends_onStage, ends_onSession, ends_modify]
  apply ((Statement.ends_execute_works validates call.stage explained).and
    (Statement.ends_execute_idle c.connection s call.stage)).imp
  · exact fun _ _ ended =>
      ⟨ended.1, left ended.2, fun explained => explained.grow rfl ended.1.grows⟩
  · exact fun _ _ failed => ⟨failed.1, [], .of_leaves .nil (left failed.2)⟩

theorem ends_runEntries_halts (validates : c.connection.Validates)
    {runTag : String → Action (Call (Observed σ)) Unit} (each : ∀ tag, Heeds c (runTag tag))
    (entries : List ChainEntry) (call : Call (Observed σ)) (explained : call.Explained)
    (known : ∀ s, .statement s ∈ entries → s.Explained call.conn.jobs) :
    Ends (runEntries c.connection runTag entries) call
      (fun _ t => Proceeds call.toDesk t.toDesk) (fun e t => Halts c e call.toDesk t.toDesk) := by
  induction entries generalizing call with
  | nil => exact .refl call.toDesk
  | cons entry rest ih =>
    have goes_on {t : Call (Observed σ)} (first : Proceeds call.toDesk t.toDesk) :
        Ends (runEntries c.connection runTag rest) t
          (fun _ u => Proceeds call.toDesk u.toDesk)
          (fun e u => Halts c e call.toDesk u.toDesk) :=
      (ih t (first.explained explained) fun s member =>
        (known s (List.mem_cons_of_mem _ member)).mono first.works.grows).imp
        (fun _ _ => first.trans) fun _ _ halts => halts.after first
    cases entry with
    | statement s =>
      simp only [runEntries, ends_bind]
      exact (ends_runStatement_halts validates s call (known s (by simp))).imp
        (fun _ _ => goes_on) fun _ _ halts => halts
    | inclusion tag =>
      simp only [runEntries, ends_bind]
      exact (each tag call explained).imp (fun _ _ => goes_on) fun _ _ halts => halts

-- By induction on how many tags the stack may still grow by.
theorem heeds_runInclude (validates : c.connection.Validates) (limit room : Nat) (tag : String) :
    Heeds c (runInclude c limit room tag) := by
  induction room generalizing tag with
  | zero =>
    intro call _
    simp only [runInclude, ends_bind, Action.ends_get]
    split
    · exact (Proceeds.refl _).halts _
    · exact (Proceeds.refl _).halts _
  | succ room ih =>
    intro call explained
    simp only [runInclude, ends_bind, Action.ends_get]
    split
    · exact (Proceeds.refl _).halts _
    · simp only [ends_bind, ends_onDesk, ends_noteInclude, ends_within]
      apply (ends_get_halts validates tag call.toDesk).imp
      · intro chain desk ended
        obtain ⟨first, counts⟩ := ended
        let note : Record := .ofTag "librarian"
          ("EXECUTE " ++ tag ++ " (included from " ++ call.session.stack.getLastD "" ++ ")") tag
        have idle : note.Idle := Record.idle_of_message (by simp [note, Record.ofTag])
        have entered := first.trans (.of_idle desk idle)
        have explained' := first.explained explained
        exact (ends_runEntries_halts validates ih chain.entries _ (entered.explained explained)
          fun s member => explained'.of_counts counts member).imp
          (fun _ _ => entered.trans) fun _ _ halts => halts.after entered
      · exact fun _ _ halts => halts

end Call

end QueryBook
