import QueryBook.Proofs.Accepting

set_option autoImplicit false

namespace QueryBook

open QueryBook.Action

namespace Statement

variable {σ : Type}

def runAll (conn : Connection σ) : List Statement → Action (Stage σ) Int
  | [] => pure 0
  | s :: rest => do
    let affected ← s.execute conn
    let others ← runAll conn rest
    pure (affected + others)

theorem runAll_append (conn : Connection σ) (xs ys : List Statement) :
    runAll conn (xs ++ ys) = (do
      let first ← runAll conn xs
      let others ← runAll conn ys
      pure (first + others)) := by
  induction xs with
  | nil => simp only [List.nil_append, runAll, pure_bind, Int.zero_add, bind_pure]
  | cons x xs ih =>
    simp only [List.cons_append, runAll, ih, bind_assoc, pure_bind, Int.add_assoc]

end Statement

namespace Call

variable {σ : Type} {c : Compiler σ} {steady : c.connection.ByText}

structure Goes (steady : c.connection.ByText) (call : Call σ) (stage : Stage σ) (t : Call σ)
    (u : Stage σ) : Prop where
  kept : Compiler.Kept (c.quiet steady) t.toDesk
  abreast : steady.Abreast t.stage u
  keeps : steady.Keeps call.conn t.conn
  keepsFlat : steady.Keeps stage.conn u.conn
  stack : t.session.stack = call.session.stack

theorem Goes.trans {call t v : Call σ} {stage u w : Stage σ} (first : Goes steady call stage t u)
    (second : Goes steady t u v w) : Goes steady call stage v w where
  kept := second.kept
  abreast := second.abreast
  keeps := steady.keeps.trans first.keeps second.keeps
  keepsFlat := steady.keeps.trans first.keepsFlat second.keepsFlat
  stack := second.stack.trans first.stack

def InStep (steady : c.connection.ByText) (act : Action (Call σ) Unit) (call : Call σ)
    (statements : List Statement) (stage : Stage σ) : Prop :=
  Agree act call (Statement.runAll c.connection statements) stage
    (fun _ t n u => Goes steady call stage t u ∧ t.session.affected = call.session.affected + n)
    (fun e t e' u => e = e' ∧ steady.Abreast t.stage u)

abbrev MadeOf (steady : c.connection.ByText) (s : σ) : List String → List Statement → Prop :=
  List.Forall₂ (steady.Made (c.style.getD c.connection.style) c.placement s)

theorem statements_of_keeps {s t : σ} {texts : List String} {statements : List Statement}
    (made : MadeOf steady s texts statements) (keeps : steady.Keeps s t) :
    MadeOf steady t texts statements :=
  made.imp fun _ _ made => made.of_keeps keeps

theorem entries_of_keeps {s t : σ} {blocks : List String} {entries : List ChainEntry}
    (made : List.Forall₂ (EntryOf (c.Makes steady s)) blocks entries) (keeps : steady.Keeps s t) :
    List.Forall₂ (EntryOf (c.Makes steady t)) blocks entries :=
  made.imp fun _ _ entry => entry.imp fun _ known => ⟨known.1.of_keeps keeps, known.2⟩

theorem agree_runStatement {st st' : Statement} {block : String} {call : Call σ} {stage : Stage σ}
    (kept : Compiler.Kept (c.quiet steady) call.toDesk) (abreast : steady.Abreast call.stage stage)
    (made : steady.Made (c.style.getD c.connection.style) c.placement call.conn block st)
    (made' : steady.Made (c.style.getD c.connection.style) c.placement stage.conn block st') :
    Agree (runStatement c.connection st) call (st'.execute c.connection) stage
      (fun _ t n u => Goes steady call stage t u ∧ t.session.affected = call.session.affected + n)
      (fun e t e' u => e = e' ∧ steady.Abreast t.stage u) := by
  have works := steady.keeps.toWorksBy
  unfold Agree
  simp only [runStatement, ends_bind, ends_onStage, ends_onSession, ends_modify]
  have agree := ((Connection.ByText.agree_execute abreast made made').and_left
    (Statement.ends_execute_moves works st call.stage)).and_right
    (Statement.ends_execute_moves works st' stage)
  apply agree.imp
  · intro n t _ u ended
    obtain ⟨⟨⟨rfl, abreast⟩, keeps⟩, keeps'⟩ := ended
    refine ⟨⟨?_, abreast, keeps, keeps', rfl⟩, rfl⟩
    exact fun tag chain counts => (kept tag chain counts).imp fun _ _ known =>
      ⟨known.1.of_keeps keeps, known.2⟩
  · exact fun _ _ _ _ failed => failed.1.1

theorem exists_append_of_forall₂ {α β : Type} {related : α → β → Prop} {xs ys : List α}
    {zs : List β} (pairs : List.Forall₂ related (xs ++ ys) zs) :
    ∃ front back, zs = front ++ back ∧ List.Forall₂ related xs front ∧
      List.Forall₂ related ys back := by
  induction xs generalizing zs with
  | nil => exact ⟨[], zs, rfl, .nil, pairs⟩
  | cons x xs ih =>
    cases pairs with
    | cons head rest =>
      obtain ⟨front, back, rfl, first, second⟩ := ih rest
      exact ⟨_ :: front, back, rfl, .cons head first, second⟩

def RunsAs (steady : c.connection.ByText) (stack : List String) (act : Action (Call σ) Unit)
    (texts : List String) : Prop :=
  ∀ call stage statements, call.session.stack = stack →
    Compiler.Kept (c.quiet steady) call.toDesk → steady.Abreast call.stage stage →
    MadeOf steady stage.conn texts statements → InStep steady act call statements stage

theorem inStep_runEntries {runTag : String → Action (Call σ) Unit} {stack : List String}
    {blocks texts : List String} (flat : c.library.Flattens blocks texts)
    (each : ∀ inner, (∃ block ∈ blocks, Template.includedTag block = .ok (some inner)) →
      ∀ texts, c.library.FlatOf inner texts → RunsAs steady stack (runTag inner) texts)
    {entries : List ChainEntry} {call : Call σ} {stage : Stage σ} {statements : List Statement}
    (here : call.session.stack = stack) (kept : Compiler.Kept (c.quiet steady) call.toDesk)
    (abreast : steady.Abreast call.stage stage)
    (made : List.Forall₂ (EntryOf (c.Makes steady call.conn)) blocks entries)
    (flatMade : MadeOf steady stage.conn texts statements) :
    InStep steady (runEntries c.connection runTag entries) call statements stage := by
  induction flat generalizing entries call stage statements with
  | nil =>
    cases made
    cases flatMade
    exact ⟨⟨kept, abreast, steady.keeps.refl _, steady.keeps.refl _, rfl⟩, by simp⟩
  | @statement block blocks texts plain rest ih =>
    cases made with
    | cons head made =>
      cases flatMade with
      | cons first flatMade =>
        cases head with
        | inclusion named =>
          rw [plain] at named
          cases named
        | statement _ known =>
          apply (agree_runStatement kept abreast known.1 first).bind
          intro _ t n u ended
          obtain ⟨goes, counted⟩ := ended
          apply Agree.pure_right
          have later := ih (fun inner member => each inner (by simp [member]))
            (goes.stack.trans here) goes.kept goes.abreast (entries_of_keeps made goes.keeps)
            (statements_of_keeps flatMade goes.keepsFlat)
          apply Agree.imp later
          · intro _ v m w ended
            obtain ⟨goes', counted'⟩ := ended
            exact ⟨goes.trans goes', by rw [counted', counted, Int.add_assoc]⟩
          · exact fun _ _ _ _ failed => failed
  | @inclusion block inner body blocks first texts named found within rest _ ih =>
    cases made with
    | cons head made =>
      obtain ⟨front, back, rfl, madeFront, madeBack⟩ := exists_append_of_forall₂ flatMade
      cases head with
      | statement plain =>
        rw [plain] at named
        cases named
      | inclusion named' =>
        rw [named, Except.ok.injEq, Option.some.injEq] at named'
        subst named'
        have ran := each inner ⟨block, by simp, named⟩ first ⟨body, found, within⟩ call stage front
          here kept abreast madeFront
        unfold InStep
        rw [Statement.runAll_append]
        apply Agree.bind ran
        intro _ t n u ended
        obtain ⟨goes, counted⟩ := ended
        apply Agree.pure_right
        have later := ih (fun inner member => each inner (by simp [member])) (goes.stack.trans here)
          goes.kept goes.abreast (entries_of_keeps made goes.keeps)
          (statements_of_keeps madeBack goes.keepsFlat)
        apply Agree.imp later
        · intro _ v m w ended
          obtain ⟨goes', counted'⟩ := ended
          exact ⟨goes.trans goes', by rw [counted', counted, Int.add_assoc]⟩
        · exact fun _ _ _ _ failed => failed

theorem inStep_entries {runTag : String → Action (Call σ) Unit} {tag : String}
    {stack texts : List String} (flat : c.library.FlatOf tag texts)
    (each : ∀ inner, c.library.Includes tag inner →
      ∀ texts, c.library.FlatOf inner texts → RunsAs steady stack (runTag inner) texts)
    {chain : Chain} {call : Call σ} {stage : Stage σ} {statements : List Statement}
    (here : call.session.stack = stack) (kept : Compiler.Kept (c.quiet steady) call.toDesk)
    (abreast : steady.Abreast call.stage stage)
    (flatMade : MadeOf steady stage.conn texts statements)
    (counts : c.library.chain? call.cache tag = some chain) :
    InStep steady (runEntries c.connection runTag chain.entries) call statements stage := by
  obtain ⟨-, body, found, made⟩ := kept tag chain counts
  obtain ⟨body', found', flattens⟩ := flat
  rw [found, Except.ok.injEq] at found'
  subst found'
  refine inStep_runEntries flattens ?_ here kept abreast made flatMade
  intro inner included
  obtain ⟨block, member, named⟩ := included
  exact each inner ⟨block, ⟨body, found, member⟩, named⟩

-- By induction on how many tags the stack may still grow by.
theorem runsAs_runInclude (limit : Nat) {room : Nat} {tag : String} {stack texts : List String}
    (within : c.library.Within room tag) (sound : c.library.Sound (c.Accepts steady) tag)
    (walk : (stack ++ [tag]).IsChain c.library.Includes) (flat : c.library.FlatOf tag texts) :
    RunsAs steady stack (runInclude c limit room tag) texts := by
  induction room generalizing tag stack texts with
  | zero => exact within.elim
  | succ room ih =>
    intro call stage statements here kept abreast flatMade
    have fresh : tag ∉ call.session.stack := by
      intro met
      rw [here] at met
      exact sound.acyclic (Library.transGen_of_mem walk met)
    unfold InStep Agree
    simp only [runInclude, ends_bind, ends_get, if_neg fresh, ends_onDesk, ends_noteInclude,
      ends_within]
    apply (Compiler.ends_get (c.quiet steady) (c.foresees_of_accepts steady) tag sound
      call.toDesk).imp
    · intro chain desk ended
      obtain ⟨steps, counts⟩ := ended
      obtain ⟨alike, keeps⟩ := steps.moves
      have each (inner : String) (includes : c.library.Includes tag inner) (texts : List String)
          (flat : c.library.FlatOf inner texts) :
          RunsAs steady (stack ++ [tag]) (runInclude c limit room inner) texts :=
        ih (within inner includes) (sound.inward includes) (Library.isChain_concat walk includes)
          flat
      have alike' : steady.Alike desk.conn stage.conn :=
        steady.alike.trans (steady.alike.symm alike) abreast.alike
      generalize inside : Call.mk _ _ (Session.push _ tag) = call'
      have ran : InStep steady (runEntries c.connection (runInclude c limit room) chain.entries)
          call' statements stage := by
        subst inside
        exact inStep_entries flat each (congrArg (· ++ [tag]) here) (steps.kept kept)
          ⟨alike', abreast.data⟩ flatMade counts
      apply Agree.imp ran
      · intro _ t n u ended
        obtain ⟨goes, counted⟩ := ended
        subst inside
        refine ⟨⟨goes.kept, goes.abreast, steady.keeps.trans keeps goes.keeps, goes.keepsFlat, ?_⟩,
          counted⟩
        simp [Session.pop, goes.stack, Session.push]
      · exact fun _ _ _ _ failed => failed
    · exact fun _ _ failed => failed.2.2.elim

theorem inStep_runChain (limit : Nat) {tag : String} {texts : List String} {chain : Chain}
    {call : Call σ} {stage : Stage σ} {statements : List Statement}
    (within : c.library.Within (limit - 1 + 1) tag)
    (sound : c.library.Sound (c.Accepts steady) tag) (flat : c.library.FlatOf tag texts)
    (here : call.session.stack = [tag]) (kept : Compiler.Kept (c.quiet steady) call.toDesk)
    (abreast : steady.Abreast call.stage stage)
    (flatMade : MadeOf steady stage.conn texts statements)
    (counts : c.library.chain? call.cache tag = some chain) :
    InStep steady (runChain c limit chain) call statements stage := by
  refine inStep_entries flat ?_ here kept abreast flatMade counts
  intro inner includes texts flat
  exact runsAs_runInclude limit (within inner includes) (sound.inward includes)
    (@Library.isChain_concat _ [] _ _ (.singleton tag) includes) flat

end Call

end QueryBook
