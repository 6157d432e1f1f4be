import QueryBook.Proofs.Compilable
import QueryBook.Proofs.Editing
import Mathlib.Algebra.Order.BigOperators.Group.List
import Mathlib.Algebra.Order.Group.Nat

set_option autoImplicit false

namespace QueryBook

open QueryBook.Action Compiler

def Use.edited : Use → Option String
  | .add tag _ | .remove tag => some tag
  | _ => none

theorem Use.edited_of_advances {u : Use} (advances : u.advances = true) : u.edited = none := by
  cases u with
  | add => cases advances
  | remove => cases advances
  | _ => rfl

namespace Compiler

variable {σ : Type} {c : Compiler σ} {m : c.Making} {outdated : String → String → Prop}
  {desk t : Desk σ}

-- Every chain that counts is a chain of its tag's template. What a chain includes has a chain too,
-- of a lower rank, unless this include is outdated.
structure Current (m : c.Making) (outdated : String → String → Prop) (desk : Desk σ) : Prop where
  kept : Kept m desk
  ranked : ∃ rank : String → Nat, ∀ tag chain, c.library.chain? desk.cache tag = some chain →
    ∀ inner ∈ chain.includes, ¬ outdated tag inner →
      (c.library.chain? desk.cache inner).isSome ∧ rank inner < rank tag

theorem Current.of_fresh (fresh : desk.cache = []) : Current m outdated desk :=
  ⟨kept_of_fresh fresh, fun _ => 0, fun tag chain counts => by simp [fresh] at counts⟩

theorem Current.imp {more : String → String → Prop} (current : Current m outdated desk)
    (implies : ∀ tag inner, outdated tag inner → more tag inner) : Current m more desk := by
  obtain ⟨kept, rank, ranked⟩ := current
  exact ⟨kept, rank, fun tag chain counts inner member recent =>
    ranked tag chain counts inner member fun old => recent (implies tag inner old)⟩

-- Only an outdated include leads to the tag of a new chain, so the tag can be ranked above what it
-- includes.
theorem Current.of_step (current : Current m outdated desk) (step : Step m desk t) :
    Current m outdated t := by
  refine ⟨step.kept current.kept, ?_⟩
  obtain ⟨rank, ranked⟩ := current.ranked
  cases step with
  | asked => exact ⟨rank, ranked⟩
  | found other source resolved unmade =>
    refine ⟨rank, fun tag chain counts inner member recent => ?_⟩
    obtain ⟨counted, less⟩ := ranked tag chain (Library.chain?_of_found counts) inner member recent
    have different : inner ≠ other := by
      rintro rfl
      simp [unmade] at counted
    rw [Library.chain?_put_of_ne different]
    exact ⟨counted, less⟩
  | stored other source chain' resolved unmade made inner' =>
    refine ⟨Function.update rank other ((chain'.includes.map rank).sum + 1), ?_⟩
    intro tag chain counts inner member recent
    have before : (c.library.chain? desk.cache inner).isSome ∧
        (tag ≠ other → rank inner < rank tag) ∧ (tag = other → inner ∈ chain'.includes) := by
      rw [Library.chain?_stored resolved] at counts
      split at counts
      next same =>
        cases counts
        exact ⟨inner' inner member, fun different => absurd same different, fun _ => member⟩
      next different =>
        obtain ⟨counted, less⟩ := ranked tag chain counts inner member recent
        exact ⟨counted, fun _ => less, fun same => absurd same different⟩
    obtain ⟨counted, less, newer⟩ := before
    have different : inner ≠ other := by
      rintro rfl
      simp [unmade] at counted
    rw [Library.chain?_put_of_ne different, Function.update_of_ne different]
    refine ⟨counted, ?_⟩
    by_cases same : tag = other
    · rw [same, Function.update_self]
      exact Nat.lt_succ_of_le (List.le_sum_of_mem (List.mem_map_of_mem (newer same)))
    · rw [Function.update_of_ne same]
      exact less same

theorem Current.of_steps (current : Current m outdated desk) (steps : Steps m desk t) :
    Current m outdated t := by
  induction steps with
  | refl => exact current
  | tail _ step ih => exact ih.of_step step

-- What is behind an outdated include that the tag reaches has a chain, and does not lead back.
def Mended (c : Compiler σ) (outdated : String → String → Prop) (desk : Desk σ) (tag : String) :
    Prop :=
  ∀ outer inner, Relation.ReflTransGen c.library.Includes tag outer → outdated outer inner →
    (c.library.chain? desk.cache inner).isSome ∧
      ¬ Relation.ReflTransGen c.library.Includes inner outer

section Mended

variable {tag : String} (current : Current m outdated desk) (mended : c.Mended outdated desk tag)
include current mended

theorem Current.exists_rank :
    ∃ rank : String → Nat, ∀ outer inner,
      Relation.ReflTransGen c.library.Includes tag outer →
      (c.library.chain? desk.cache outer).isSome → c.library.Includes outer inner →
      (c.library.chain? desk.cache inner).isSome ∧
        (Relation.ReflTransGen c.library.Includes inner outer → rank inner < rank outer) := by
  obtain ⟨kept, rank, ranked⟩ := current
  refine ⟨rank, fun outer inner reaches counted includes => ?_⟩
  obtain ⟨chain, counts⟩ := Option.isSome_iff_exists.mp counted
  have member := (kept outer chain counts).mem_includes_iff.mpr includes
  by_cases old : outdated outer inner
  · obtain ⟨counted, away⟩ := mended outer inner reaches old
    exact ⟨counted, fun back => absurd back away⟩
  · obtain ⟨counted, less⟩ := ranked outer chain counts inner member old
    exact ⟨counted, fun _ => less⟩

variable (counts : (c.library.chain? desk.cache tag).isSome)
include counts

theorem Current.isSome {inner : String}
    (reaches : Relation.ReflTransGen c.library.Includes tag inner) :
    (c.library.chain? desk.cache inner).isSome := by
  obtain ⟨rank, link⟩ := current.exists_rank mended
  induction reaches with
  | refl => exact counts
  | tail before includes ih => exact (link _ _ before ih includes).1

-- The rank falls along every way that leads back to where it starts.
theorem Current.acyclic {outer : String}
    (reaches : Relation.ReflTransGen c.library.Includes tag outer) :
    ¬ Relation.TransGen c.library.Includes outer outer := by
  obtain ⟨rank, link⟩ := current.exists_rank mended
  have falls {inner : String} (way : Relation.TransGen c.library.Includes outer inner)
      (back : Relation.ReflTransGen c.library.Includes inner outer) : rank inner < rank outer := by
    induction way with
    | single includes =>
      exact (link _ _ reaches (current.isSome mended counts reaches) includes).2 back
    | tail before includes ih =>
      have reached := reaches.trans before.to_reflTransGen
      have less := (link _ _ reached (current.isSome mended counts reached) includes).2
        (back.trans before.to_reflTransGen)
      exact less.trans (ih (.head includes back))
  exact fun cycle => Nat.lt_irrefl _ (falls cycle .refl)

theorem Current.compilable {fine : String → Prop}
    (knows : ∀ s block st, m.Known s block st → fine block) :
    c.library.Compilable fine tag := by
  have made (inner : String) (reaches : Relation.ReflTransGen c.library.Includes tag inner) :
      ∃ chain, c.library.ChainOf (m.Known desk.conn) inner chain := by
    obtain ⟨chain, counts⟩ := Option.isSome_iff_exists.mp (current.isSome mended counts reaches)
    exact ⟨chain, current.kept inner chain counts⟩
  constructor
  · intro inner reaches
    obtain ⟨chain, chainOf⟩ := made inner reaches
    obtain ⟨body, found, -⟩ := chainOf.blocks
    exact ⟨body, found⟩
  · intro inner block reaches held
    obtain ⟨chain, chainOf⟩ := made inner reaches
    obtain ⟨entry, entryOf⟩ := chainOf.exists_entryOf held
    cases entryOf with
    | inclusion named => exact .inl ⟨_, named⟩
    | statement plain known => exact .inr ⟨plain, knows desk.conn block _ known⟩
  · exact fun outer reaches => current.acyclic mended counts reaches

end Mended

end Compiler

namespace Book

variable {σ : Type} {setup : Setup σ} {accepts : String → Nat → Prop}
  {outdated : String → String → Prop} {book t : Book σ}

-- The template of the inner tag has been edited since a chain of the outer tag that includes it was
-- made, and that of the outer tag has not.
def Outdated (setup : Setup σ) (start : Book σ) (uses : List Use) (outer inner : String) : Prop :=
  ∃ before u later, uses = before ++ u :: later ∧ u.edited = some inner ∧
    (after setup start before).Links outer inner ∧ ∀ v ∈ u :: later, v.edited ≠ some outer

theorem after_concat (setup : Setup σ) (start : Book σ) (uses : List Use) (u : Use) :
    after setup start (uses ++ [u]) = ((use setup u).outcome (after setup start uses)).2 :=
  after_append setup start uses [u]

theorem Outdated.concat {start : Book σ} {uses : List Use} {u : Use} {outer inner : String}
    (unedited : u.edited ≠ some outer)
    (outdated : Outdated setup start uses outer inner ∨
      u.edited = some inner ∧ (after setup start uses).Links outer inner) :
    Outdated setup start (uses ++ [u]) outer inner := by
  rcases outdated with ⟨before, v, later, rfl, edits, links, kept⟩ | ⟨edits, links⟩
  · refine ⟨before, v, later ++ [u], by simp, edits, links, fun w member => ?_⟩
    rw [← List.cons_append, List.mem_append, List.mem_singleton] at member
    rcases member with member | rfl
    · exact kept w member
    · exact unedited
  · exact ⟨uses, u, [], rfl, edits, links, by simpa using unedited⟩

structure Follows (prepares : setup.connection.PreparesAs accepts)
    (outdated : String → String → Prop) (book : Book σ) : Prop where
  shelved : book.Shelved
  current : Current ((setup.compiler book.library).accepting prepares) outdated book.toDesk

variable {prepares : setup.connection.PreparesAs accepts}

theorem Follows.of_advances (follows : Follows prepares outdated book)
    (advances : Advances ((setup.compiler book.library).accepting prepares) book t) :
    Follows prepares outdated t := by
  have shelved := (lasting_shelved ((setup.compiler book.library).accepting prepares)).steps
    follows.shelved advances.steps
  have current := follows.current.of_steps advances.steps
  constructor
  · unfold Shelved
    rw [advances.library]
    exact shelved
  · rw [advances.library]
    exact current

-- An include of the edited tag is outdated from now on, unless it is in its own chain.
theorem Follows.of_edited {tag : String} (follows : Follows prepares outdated book)
    (edit : t.Shelved ∧ Edited tag book t) :
    Follows prepares (fun outer inner => outer ≠ tag ∧
      (outdated outer inner ∨ inner = tag ∧ book.Links outer inner)) t := by
  obtain ⟨shelved, edited⟩ := edit
  obtain ⟨kept, rank, ranked⟩ := follows.current
  refine ⟨shelved, fun outer chain counts => edited.chainOf kept counts, rank, ?_⟩
  intro outer chain counts inner member recent
  have counts : t.library.chain? t.cache outer = some chain := counts
  have different : outer ≠ tag := by
    rintro rfl
    simp [edited.gone] at counts
  rw [edited.chains outer different] at counts
  have apart : inner ≠ tag := fun same => recent ⟨different, .inr ⟨same, chain, counts, member⟩⟩
  change (t.library.chain? t.cache inner).isSome ∧ _
  rw [edited.chains inner apart]
  exact ranked outer chain counts inner member fun old => recent ⟨different, .inl old⟩

theorem ends_use_follows {start : Book σ} {uses : List Use} {u : Use}
    (allowed : u.advances = true ∨ u.edits = true)
    (follows : Follows prepares (Outdated setup start uses) (after setup start uses)) :
    EndsIn (use setup u) (after setup start uses)
      (Follows prepares (Outdated setup start (uses ++ [u]))) := by
  have edits {tag : String} {t : Book σ} (edits : u.edited = some tag)
      (edit : t.Shelved ∧ Edited tag (after setup start uses) t) :
      Follows prepares (Outdated setup start (uses ++ [u])) t := by
    obtain ⟨shelved, current⟩ := follows.of_edited edit
    refine ⟨shelved, current.imp fun outer inner old => ?_⟩
    obtain ⟨different, old⟩ := old
    have unedited : u.edited ≠ some outer := by simpa [edits] using Ne.symm different
    refine .concat unedited (old.imp_right fun linked => ?_)
    obtain ⟨rfl, links⟩ := linked
    exact ⟨edits, links⟩
  rcases allowed with advances | edited
  · have goes_on {t : Book σ} (advanced : Advances
        ((setup.compiler (after setup start uses).library).accepting prepares)
        (after setup start uses) t) :
        Follows prepares (Outdated setup start (uses ++ [u])) t := by
      obtain ⟨shelved, current⟩ := follows.of_advances advanced
      refine ⟨shelved, current.imp fun outer inner old => .concat ?_ (.inl old)⟩
      simp [Use.edited_of_advances advances]
    exact (ends_use_advances (Connection.MovesBy.any setup.connection) advances rfl).mono
      fun _ => goes_on
  · cases u with
    | add tag sql => exact edits rfl (Shelved.add follows.shelved tag sql)
    | remove tag =>
      simp only [use, remove, ends_bind, ends_onCatalog, Catalog.invalidate, ends_modify]
      exact edits rfl (Shelved.remove follows.shelved tag)
    | _ => cases edited

theorem follows_after (prepares : setup.connection.PreparesAs accepts)
    (templates : List (String × String)) (tree : FileTree) (link : Link σ) (autocommit : Bool)
    {uses : List Use} (each : ∀ u ∈ uses, u.advances = true ∨ u.edits = true) :
    let start := inMemory templates tree link autocommit
    Follows prepares (Outdated setup start uses) (after setup start uses) := by
  intro start
  induction uses using List.reverseRecOn with
  | nil =>
    exact ⟨⟨_, rfl, MemoryShelf.dated_ofList templates, Cache.dated_nil _⟩, .of_fresh rfl⟩
  | append_singleton uses u ih =>
    rw [after_concat]
    have earlier := ih fun v member => each v (by simp [member])
    exact (ends_use_follows (each u (by simp)) earlier).outcome

end Book

end QueryBook
