import QueryBook.Analysis
import QueryBook.Catalog
import QueryBook.Template.Blocks
import QueryBook.Template.Include

set_option autoImplicit false

namespace QueryBook

structure Desk (σ : Type) extends Catalog where
  conn : σ

namespace Desk

variable {σ α : Type}

def onCatalog (act : Action Catalog α) : Action (Desk σ) α :=
  Action.focus Desk.toCatalog (fun desk catalog => { desk with toCatalog := catalog }) act

def onConn (act : Action σ α) : Action (Desk σ) α :=
  Action.focus Desk.conn (fun desk conn => { desk with conn }) act

theorem mem_findable_of_find {library : Library} {tag text : String} {desk after : Desk σ}
    (found : onCatalog (Catalog.find library tag) desk = .ok text after) :
    tag ∈ library.shelf.findable library.tree := by
  unfold onCatalog Action.focus at found
  split at found
  next a catalog inner => exact Catalog.mem_findable_of_find inner
  next => simp at found

end Desk

def Parsed.bareLabels (parsed : Parsed) : Action Catalog (List String) :=
  match parsed with
  | .query true _ | .other => pure []
  | .query false labels => pure (labels.filter fun label => !label.toList.contains '.')
  | .unparsed reason => do
    Catalog.note <| .debug "analysis"
      ("Skipping label analysis, statement did not parse: " ++ reason)
    pure []
  | .broken name text => throw (.analysis name text)

structure Compiler (σ : Type) where
  connection : Connection σ
  library : Library
  placement : Placement
  style : Option MarkerStyle
  warnBareColumns : Bool
  dialect : Option String
  parse : QueryParser

def Library.remaining (library : Library) (path : List String) : List String :=
  (library.shelf.findable library.tree).filter fun tag => !path.contains tag

theorem Library.length_remaining_lt {library : Library} {path : List String} {tag : String}
    (found : tag ∈ library.shelf.findable library.tree) (fresh : tag ∉ path) :
    (library.remaining (path ++ [tag])).length < (library.remaining path).length := by
  have split : library.remaining (path ++ [tag]) = (library.remaining path).filter (· ≠ tag) := by
    simp only [Library.remaining, List.filter_filter]
    congr 1
    funext other
    simp [List.contains_eq_mem, Bool.and_comm]
  rw [split]
  refine List.length_filter_lt_length_iff_exists.mpr ⟨tag, ?_, by simp⟩
  simp [Library.remaining, found, fresh]

namespace Compiler

variable {σ : Type}

def checkLabels (c : Compiler σ) (tag : String) (s : Statement) : Action (Desk σ) Unit := do
  if c.warnBareColumns && s.kind = .zeroOrMore && s.marked.directNames.isEmpty then
    let labels ← Desk.onCatalog (c.parse c.dialect s.sql).bareLabels
    if !labels.isEmpty then
      Desk.onCatalog <| Catalog.note
        { level := Level.warning
          logger := loggerName "compiler"
          message :=
            "Multi-row select in " ++ tag ++ " stores bare columns " ++
              String.intercalate ", " labels ++
              " as sequences of scalars; use 'group.column' labels to collect rows"
          extra := some [("tag", .text tag), ("labels", .list (labels.map Value.text))] }

def compileBlock (c : Compiler σ) (tag : String) (path : List String)
    (includeTag : (inner : String) → inner ∉ path → Action (Desk σ) Chain) (block : String) :
    Action (Desk σ) ChainEntry := do
  match ← Action.ofExcept (Template.includedTag block) with
  | some inner =>
    if cyclic : inner ∈ path then throw (.includeCycle (path ++ [inner]))
    else
      match ← Desk.onCatalog (Catalog.lookup c.library inner) with
      | some _ => pure ()
      | none => discard (includeTag inner cyclic)
      pure (.inclusion inner)
  | none =>
    let s ← Desk.onConn (Statement.create c.connection c.style c.placement block)
    c.checkLabels tag s
    pure (.statement s)

def compileUnder (c : Compiler σ) (path : List String) (tag : String) (fresh : tag ∉ path) :
    Action (Desk σ) Chain := fun desk =>
  match found : Desk.onCatalog (Catalog.find c.library tag) desk with
  | .error e desk => .error e desk
  | .ok body desk =>
    have := Desk.mem_findable_of_find found
    have := Library.length_remaining_lt this fresh
    let finish : Action (Desk σ) Chain := do
      Desk.onCatalog (Catalog.note (.ofTag "compiler" ("PREPARE " ++ tag) tag))
      let entries ← (Template.statements body).mapM fun block =>
        Action.mapError (Error.blame tag) <|
          c.compileBlock tag (path ++ [tag])
            (fun inner fresh => c.compileUnder (path ++ [tag]) inner fresh) block
      let chain : Chain := ⟨tag, entries⟩
      Desk.onCatalog (Catalog.store c.library tag chain)
      pure chain
    finish desk
termination_by (c.library.remaining path).length

def compile (c : Compiler σ) (tag : String) : Action (Desk σ) Chain :=
  c.compileUnder [] tag (by simp)

def get (c : Compiler σ) (tag : String) : Action (Desk σ) Chain := do
  match ← Desk.onCatalog (Catalog.lookup c.library tag) with
  | some chain => pure chain
  | none => c.compile tag

end Compiler

end QueryBook
