import QueryBook.Proofs.Sound

set_option autoImplicit false

namespace QueryBook

namespace Library

variable {library : Library} {fine : String → Prop} {tag inner : String} {n : Nat}

inductive Flattens (library : Library) : List String → List String → Prop where
  | nil : Flattens library [] []
  | statement {block : String} {blocks texts : List String}
    (plain : Template.includedTag block = .ok none) (rest : Flattens library blocks texts) :
    Flattens library (block :: blocks) (block :: texts)
  | inclusion {block inner body : String} {blocks first texts : List String}
    (named : Template.includedTag block = .ok (some inner))
    (found : library.template inner = .ok body)
    (within : Flattens library (Template.statements body) first)
    (rest : Flattens library blocks texts) : Flattens library (block :: blocks) (first ++ texts)

def FlatOf (library : Library) (tag : String) (texts : List String) : Prop :=
  ∃ body, library.template tag = .ok body ∧ library.Flattens (Template.statements body) texts

theorem Flattens.unique {blocks texts others : List String} (flat : library.Flattens blocks texts)
    (other : library.Flattens blocks others) : others = texts := by
  induction flat generalizing others with
  | nil =>
    cases other
    rfl
  | statement plain _ ih =>
    cases other with
    | statement _ rest => rw [ih rest]
    | inclusion named =>
      rw [plain] at named
      cases named
  | inclusion named found _ _ ihWithin ih =>
    cases other with
    | statement plain =>
      rw [plain] at named
      cases named
    | inclusion named' found' within rest =>
      rw [named, Except.ok.injEq, Option.some.injEq] at named'
      subst named'
      rw [found, Except.ok.injEq] at found'
      subst found'
      rw [ihWithin within, ih rest]

theorem FlatOf.unique {texts others : List String} (flat : library.FlatOf tag texts)
    (other : library.FlatOf tag others) : others = texts := by
  obtain ⟨body, found, flat⟩ := flat
  obtain ⟨body', found', other⟩ := other
  rw [found, Except.ok.injEq] at found'
  subst found'
  exact flat.unique other

theorem Sound.exists_flat (sound : library.Sound fine tag) : ∃ texts, library.FlatOf tag texts := by
  induction sound with
  | @intro tag body found blocks _ _ ih =>
    have flattens (bs : List String) (held : ∀ block ∈ bs, block ∈ Template.statements body) :
        ∃ texts, library.Flattens bs texts := by
      induction bs with
      | nil => exact ⟨[], .nil⟩
      | cons block rest ihRest =>
        obtain ⟨texts, flat⟩ := ihRest fun other member =>
          held other (List.mem_cons_of_mem _ member)
        obtain ⟨target, named⟩ := blocks block (held block (by simp))
        cases target with
        | none => exact ⟨block :: texts, .statement named flat⟩
        | some inner =>
          obtain ⟨first, body', found', within⟩ :=
            ih inner ⟨block, ⟨body, found, held block (by simp)⟩, named⟩
          exact ⟨first ++ texts, .inclusion named found' within flat⟩
    obtain ⟨texts, flat⟩ := flattens (Template.statements body) fun _ member => member
    exact ⟨texts, body, found, flat⟩

theorem Flattens.all {blocks texts : List String} (flat : library.Flattens blocks texts)
    (statements : ∀ block ∈ blocks, Template.includedTag block = .ok none → fine block)
    (inward : ∀ block ∈ blocks, ∀ inner, Template.includedTag block = .ok (some inner) →
      library.Sound fine inner) : ∀ text ∈ texts, fine text := by
  induction flat with
  | nil => simp
  | statement plain _ ih =>
    intro text member
    rcases List.mem_cons.mp member with rfl | member
    · exact statements _ (by simp) plain
    · exact ih (fun _ held => statements _ (List.mem_cons_of_mem _ held))
        (fun _ held => inward _ (List.mem_cons_of_mem _ held)) text member
  | @inclusion block inner body _ _ _ named found _ _ ihWithin ih =>
    intro text member
    have sound := inward block (by simp) inner named
    rcases List.mem_append.mp member with member | member
    · refine ihWithin (fun _ held => sound.fine_of_hasBlock ⟨body, found, held⟩) ?_ text member
      exact fun _ held deeper named => sound.inward ⟨_, ⟨body, found, held⟩, named⟩
    · exact ih (fun _ held => statements _ (List.mem_cons_of_mem _ held))
        (fun _ held => inward _ (List.mem_cons_of_mem _ held)) text member

theorem Sound.fine_of_flat {texts : List String} (sound : library.Sound fine tag)
    (flat : library.FlatOf tag texts) : ∀ text ∈ texts, fine text := by
  obtain ⟨body, found, flat⟩ := flat
  refine flat.all ?_ ?_
  · exact fun _ held => sound.fine_of_hasBlock ⟨body, found, held⟩
  · exact fun _ held inner named => sound.inward ⟨_, ⟨body, found, held⟩, named⟩

def Within (library : Library) : Nat → String → Prop
  | 0, _ => False
  | n + 1, tag => ∀ inner, library.Includes tag inner → library.Within n inner

theorem within_iff : library.Within n tag ↔
    ∀ walk, (tag :: walk).IsChain library.Includes → (tag :: walk).length ≤ n := by
  induction n generalizing tag with
  | zero => simpa [Within] using ⟨[], .singleton tag⟩
  | succ n ih =>
    constructor
    · intro within walk chained
      cases walk with
      | nil => simp
      | cons inner rest =>
        obtain ⟨includes, chained⟩ := List.isChain_cons_cons.mp chained
        have shorter := ih.mp (within inner includes) rest chained
        simp only [List.length_cons] at shorter ⊢
        omega
    · intro bounded inner includes
      apply ih.mpr
      intro walk chained
      have longer := bounded (inner :: walk) (.cons_cons includes chained)
      simp only [List.length_cons] at longer ⊢
      omega

theorem within_nested (n : Nat) : nested.Within (n + 2) "outer" := by
  intro inner includes
  obtain ⟨-, rfl⟩ := includes_nested.mp includes
  intro deeper includes
  have other := (includes_nested.mp includes).1
  simp at other

end Library

end QueryBook
