import QueryBook.Proofs.Closure
import QueryBook.Proofs.Includes
import QueryBook.Proofs.Lasting

set_option autoImplicit false

namespace QueryBook

open QueryBook.Action

namespace Library

variable {library : Library} {fine : String → Prop} {tag : String}

-- What the tag reaches through its includes is there and well-formed, and no way leads back.
structure Compilable (library : Library) (fine : String → Prop) (tag : String) : Prop where
  found : ∀ inner, Relation.ReflTransGen library.Includes tag inner →
    ∃ body, library.template inner = .ok body
  blocks : ∀ inner block, Relation.ReflTransGen library.Includes tag inner →
    library.HasBlock inner block →
    (∃ target, Template.includedTag block = .ok (some target)) ∨
      Template.includedTag block = .ok none ∧ fine block
  acyclic : ∀ inner, Relation.ReflTransGen library.Includes tag inner →
    ¬ Relation.TransGen library.Includes inner inner

theorem Compilable.inward {inner : String} (compilable : library.Compilable fine tag)
    (includes : library.Includes tag inner) : library.Compilable fine inner where
  found := fun deeper reaches => compilable.found deeper (.head includes reaches)
  blocks := fun deeper block reaches => compilable.blocks deeper block (.head includes reaches)
  acyclic := fun deeper reaches => compilable.acyclic deeper (.head includes reaches)

theorem mem_findable_of_template {body : String} (found : library.template tag = .ok body) :
    tag ∈ library.shelf.findable library.tree := by
  unfold template at found
  split at found
  · cases found
  next source resolved => exact Shelf.mem_findable resolved

-- A walk meets no tag twice, so every step of it leaves fewer tags to be met.
theorem Compilable.sound (compilable : library.Compilable fine tag) (path : List String)
    (walk : (path ++ [tag]).IsChain library.Includes) : library.Sound fine tag := by
  induction room : (library.remaining path).length using Nat.strongRecOn
    generalizing path tag with
  | ind room ih =>
    obtain ⟨body, found⟩ := compilable.found tag .refl
    have fresh : tag ∉ path := fun met => compilable.acyclic tag .refl (transGen_of_mem walk met)
    have less := length_remaining_lt (mem_findable_of_template found) fresh
    refine .intro found ?_ ?_ ?_
    · intro block member
      rcases compilable.blocks tag block .refl ⟨body, found, member⟩ with
        ⟨target, named⟩ | ⟨plain, -⟩
      · exact ⟨some target, named⟩
      · exact ⟨none, plain⟩
    · intro block member plain
      rcases compilable.blocks tag block .refl ⟨body, found, member⟩ with
        ⟨target, named⟩ | ⟨-, fine⟩
      · rw [plain] at named
        cases named
      · exact fine
    · intro inner includes
      exact ih _ (room ▸ less) (compilable.inward includes) (path ++ [tag])
        (isChain_concat walk includes) rfl

theorem Sound.exists_template (sound : library.Sound fine tag) :
    ∃ body, library.template tag = .ok body := by
  cases sound with
  | intro found => exact ⟨_, found⟩

theorem Sound.exists_target {block : String} (sound : library.Sound fine tag)
    (held : library.HasBlock tag block) : ∃ target, Template.includedTag block = .ok target := by
  obtain ⟨body, found, member⟩ := held
  cases sound with
  | intro found' blocks =>
    rw [found, Except.ok.injEq] at found'
    exact blocks block (found' ▸ member)

theorem sound_iff_compilable : library.Sound fine tag ↔ library.Compilable fine tag := by
  constructor
  · intro sound
    refine ⟨?_, ?_, fun inner reaches => (sound.of_reflTransGen reaches).acyclic⟩
    · exact fun inner reaches => (sound.of_reflTransGen reaches).exists_template
    · intro inner block reaches held
      have soundInner := sound.of_reflTransGen reaches
      obtain ⟨target, named⟩ := soundInner.exists_target held
      cases target with
      | none => exact .inr ⟨named, soundInner.fine_of_hasBlock held named⟩
      | some target => exact .inl ⟨target, named⟩
  · exact fun compilable => compilable.sound [] (.singleton tag)

end Library

-- Which texts are prepared does not change, whatever else does.
def Connection.PreparesAs {σ : Type} (conn : Connection σ) (accepts : String → Nat → Prop) : Prop :=
  ∀ sql n s, Ends (conn.prepare sql n) s (fun _ _ => accepts sql n) (fun _ _ => ¬ accepts sql n)

theorem Connection.ByText.preparesAs {σ : Type} {conn : Connection σ} (steady : conn.ByText) :
    conn.PreparesAs fun sql n => steady.refusal sql n = none := by
  intro sql n s
  apply (steady.prepare sql n s).imp
  · exact fun _ _ ended => ended.1
  · intro f _ failed accepted
    rw [failed.1] at accepted
    cases accepted

namespace Compiler

variable {σ : Type} {c : Compiler σ} {accepts : String → Nat → Prop} {block tag : String}
  {desk : Desk σ}

def Makeable (c : Compiler σ) (accepts : String → Nat → Prop) (block : String) : Prop :=
  ∃ kind sql, StatementKind.classify block = .ok (kind, sql) ∧
    let marked := MarkedText.ofText (c.style.getD c.connection.style) sql
    marked.needsSubstitution = false → accepts marked.sql marked.bindNames.length

theorem ends_create_makeable (prepares : c.connection.PreparesAs accepts) (block : String) (s : σ) :
    Ends (Statement.create c.connection c.style c.placement block) s
      (fun _ _ => c.Makeable accepts block) (fun _ _ => ¬ c.Makeable accepts block) := by
  simp only [Statement.create, ends_bind, ends_ofExcept]
  cases classified : StatementKind.classify block with
  | error e =>
    rintro ⟨kind, sql, other, -⟩
    rw [classified] at other
    cases other
  | ok found =>
    obtain ⟨kind, sql⟩ := found
    have makeable_iff : c.Makeable accepts block ↔
        let marked := MarkedText.ofText (c.style.getD c.connection.style) sql
        marked.needsSubstitution = false → accepts marked.sql marked.bindNames.length := by
      simp [Makeable, classified]
    simp only [makeable_iff]
    split
    next directs => simp [directs]
    next plain =>
      rw [Bool.not_eq_true] at plain
      simp only [Statement.prepareText, ends_bind, ends_request, ends_pure, plain, forall_const]
      exact prepares _ _ s

def accepting (c : Compiler σ) (prepares : c.connection.PreparesAs accepts) : c.Making where
  Known := fun _ block _ => c.Makeable accepts block
  Moves := fun _ _ => True
  refl := fun _ => trivial
  trans := fun _ _ => trivial
  known_of_moves := fun known _ => known
  makes block s := (ends_create_makeable prepares block s).imp
    (fun _ _ makeable => ⟨trivial, fun _ => makeable⟩) fun _ _ _ => trivial

theorem foresees_of_makeable (prepares : c.connection.PreparesAs accepts)
    (silent : c.warnBareColumns = false) :
    c.Foresees (c.library.Sound (c.Makeable accepts)) fun _ => False := by
  apply foresees_of_sound
  · intro tag block desk makeable
    simp only [makeStatement, ends_bind, Desk.ends_onConn, ends_pure]
    apply (ends_create_makeable prepares block desk.conn).imp
    · intro st conn _
      apply ends_checkLabels
      · exact fun _ _ => trivial
      · intro name text _ fails
        exact fails fun looked => by simp [silent] at looked
    · exact fun _ _ unmakeable => unmakeable makeable
  · exact fun _ no => no

theorem lasting_vouched (prepares : c.connection.PreparesAs accepts) :
    Lasting (c.accepting prepares) (c.Vouched (c.Makeable accepts)) where
  step := fun step vouched => step.vouched (fun _ _ _ known => known) vouched
  reset := fun _ _ vouched other chain counts =>
    vouched other chain (Library.chain?_of_found counts)
  erase := fun _ vouched other chain counts => vouched other chain (Library.chain?_of_erase counts)
  fresh := fun fresh _ => vouched_of_fresh fresh

theorem exists_get_iff (prepares : c.connection.PreparesAs accepts)
    (silent : c.warnBareColumns = false) (vouched : c.Vouched (c.Makeable accepts) desk) :
    (∃ chain t, c.get tag desk = .ok chain t) ↔ c.library.Sound (c.Makeable accepts) tag := by
  constructor
  · intro got
    obtain ⟨chain, t, got⟩ := got
    have ends := ends_get (c.accepting prepares) c.foresees_any tag trivial desk
    obtain ⟨steps, counts⟩ := ends.of_ok got
    exact (lasting_vouched prepares).steps vouched steps tag chain counts
  · intro sound
    have ends := ends_get (c.accepting prepares) (foresees_of_makeable prepares silent) tag sound
      desk
    cases got : c.get tag desk with
    | ok chain t => exact ⟨chain, t, rfl⟩
    | error e t => exact (ends.of_error got).2.2.elim

-- Compiling as far as includes of some depth; what lies `beyond` is done in another way.
def compileWithin (c : Compiler σ) (beyond : Action (Desk σ) Chain) :
    Nat → List String → String → Action (Desk σ) Chain
  | 0, _, _ => beyond
  | depth + 1, path, tag => do
    let body ← Desk.onCatalog (Catalog.find c.library tag)
    Desk.onCatalog (Catalog.note (.ofTag "compiler" ("PREPARE " ++ tag) tag))
    let entries ← (Template.statements body).mapM fun block =>
      Action.mapError (Error.blame tag) <|
        c.compileBlock tag (path ++ [tag])
          (fun inner _ => c.compileWithin beyond depth (path ++ [tag]) inner) block
    Desk.onCatalog (Catalog.store c.library tag ⟨tag, entries⟩)
    pure ⟨tag, entries⟩

-- The depth is never used up: it stays above the number of tags that are not on the path.
theorem compileWithin_eq (beyond : Action (Desk σ) Chain) {depth : Nat} {path : List String}
    (fresh : tag ∉ path) (deep : (c.library.remaining path).length < depth) :
    c.compileWithin beyond depth path tag = c.compileUnder path tag fresh := by
  induction depth generalizing path tag with
  | zero => omega
  | succ depth ih =>
    rw [compileUnder_eq]
    funext desk
    simp only [compileWithin, bind, EStateM.bind]
    cases found : Desk.onCatalog (Catalog.find c.library tag) desk with
    | error e t => rfl
    | ok body t =>
      have less := Library.length_remaining_lt (Desk.mem_findable_of_find found) fresh
      have inward :
          (fun inner (_ : inner ∉ path ++ [tag]) =>
            c.compileWithin beyond depth (path ++ [tag]) inner) =
          fun inner fresh => c.compileUnder (path ++ [tag]) inner fresh := by
        funext inner fresh
        exact ih fresh (by omega)
      simp only [inward]
      rfl

def getWithin (c : Compiler σ) (beyond : Action (Desk σ) Chain) (depth : Nat) (tag : String) :
    Action (Desk σ) Chain := do
  match ← Desk.onCatalog (Catalog.lookup c.library tag) with
  | some chain => pure chain
  | none => c.compileWithin beyond depth [] tag

theorem getWithin_eq (beyond : Action (Desk σ) Chain) {depth : Nat}
    (deep : (c.library.shelf.findable c.library.tree).length < depth) (tag : String) :
    c.getWithin beyond depth tag = c.get tag := by
  have remaining : (c.library.remaining []).length < depth :=
    Nat.lt_of_le_of_lt (List.length_filter_le _ _) deep
  have compiles : c.compileWithin beyond depth [] tag = c.compile tag :=
    compileWithin_eq beyond List.not_mem_nil remaining
  let orElse (act : Action (Desk σ) Chain) : Action (Desk σ) Chain := do
    match ← Desk.onCatalog (Catalog.lookup c.library tag) with
    | some chain => pure chain
    | none => act
  exact congrArg orElse compiles

end Compiler

namespace Book

variable {σ : Type} {setup : Setup σ} {accepts : String → Nat → Prop}

/-- A chain can be had for a tag exactly when nothing is wrong with what the tag reaches. -/
theorem get_iff_compilable (prepares : setup.connection.PreparesAs accepts)
    (silent : setup.warnBareColumns = false) (start : Book σ) (fresh : start.cache = [])
    {uses : List Use} (unchanged : ∀ u ∈ uses, u.edits = false) (tag : String) :
    let c := setup.compiler start.library
    let book := after setup start uses
    book.library = start.library ∧
    (∀ beyond depth, (c.library.shelf.findable c.library.tree).length < depth →
      c.getWithin beyond depth tag = c.get tag) ∧
    ((∃ chain t, c.get tag book.toDesk = .ok chain t) ↔
      c.library.Compilable (c.Makeable accepts) tag) := by
  intro c book
  have empty : c.Vouched (c.Makeable accepts) start.toDesk := Compiler.vouched_of_fresh fresh
  obtain ⟨same, vouched⟩ := lasts_after (Connection.MovesBy.any setup.connection)
    (Compiler.lasting_vouched (c := c) prepares) unchanged rfl empty
  refine ⟨same, fun beyond depth deep => Compiler.getWithin_eq beyond deep tag, ?_⟩
  rw [Compiler.exists_get_iff (c := c) prepares silent vouched, Library.sound_iff_compilable]

-- The chain that was cached for the outer tag includes one that has been dropped and made again.
theorem get_outer_after_uses :
    let accepts (sql : String) (n : Nat) :=
      (Script.byText _ _ : silentSetup.connection.ByText).refusal sql n = none
    let uses : List Use := [.execute "outer" [], .invalidate "inner", .compile "inner"]
    let c := silentSetup.compiler nestedBook.library
    silentSetup.connection.PreparesAs accepts ∧ silentSetup.warnBareColumns = false ∧
    nestedBook.cache = [] ∧ (∀ u ∈ uses, u.edits = false) ∧
    ∃ chain t, c.get "outer" (after silentSetup nestedBook uses).toDesk = .ok chain t := by
  intro accepts uses c
  have prepares : silentSetup.connection.PreparesAs accepts := Connection.ByText.preparesAs _
  have unchanged : ∀ u ∈ uses, u.edits = false := by simp [uses, Use.edits]
  have sound : Library.nested.Sound (c.Makeable accepts) "outer" :=
    Library.sound_nested ⟨_, _, rfl, fun _ => rfl⟩
  obtain ⟨-, -, got⟩ := get_iff_compilable prepares rfl nestedBook rfl unchanged "outer"
  exact ⟨prepares, rfl, rfl, unchanged, got.mpr (Library.sound_iff_compilable.mp sound)⟩

end Book

end QueryBook
