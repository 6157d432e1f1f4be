import QueryBook.Proofs.Closure
import QueryBook.Proofs.Includes

set_option autoImplicit false

namespace QueryBook

open QueryBook.Action Compiler

-- The chain goes from tag to included tag, each a new one, until it comes to a tag that it has met.
def Library.Circles (library : Library) (chain : List String) : Prop :=
  ∃ path tag, chain = path ++ [tag] ∧ chain.IsChain library.Includes ∧ path.Nodup ∧ tag ∈ path

theorem Library.Circles.exists_cycle {library : Library} {chain : List String}
    (circles : library.Circles chain) : ∃ tag, Relation.TransGen library.Includes tag tag := by
  obtain ⟨path, tag, rfl, walk, -, met⟩ := circles
  exact ⟨tag, transGen_of_mem walk met⟩

namespace Error

def Genuine (library : Library) (e : Error) : Prop :=
  ∀ chain, e = .includeCycle chain → library.Circles chain

variable {library : Library} {e : Error}

theorem genuine_of_not_compile (other : e.kind.isCompile = false) : e.Genuine library := by
  rintro chain rfl
  cases other

theorem Genuine.blame (tag : String) (genuine : e.Genuine library) :
    (e.blame tag).Genuine library := by
  intro chain same
  unfold Error.blame at same
  split at same
  · cases same
  · cases same
  · cases same
  · exact genuine chain same

end Error

theorem Statement.selectMode_of_draft {style : MarkerStyle} {placement : Placement}
    {block : String} {e : Error} (failed : draft style placement block = .error e) :
    ∃ mode, e = .selectMode mode block none ∧
      StatementKind.classify block = .error (.selectMode mode block none) := by
  unfold draft at failed
  cases classified : StatementKind.classify block with
  | ok found => simp [classified] at failed
  | error e' =>
    simp only [classified, Except.error.injEq] at failed
    subst failed
    unfold StatementKind.classify at classified
    split at classified
    · cases classified
    · split at classified <;> cases classified
      exact ⟨_, rfl, rfl⟩

theorem Template.eq_malformedInclude {block : String} {e : Error}
    (malformed : includedTag block = .error e) : e = .malformedInclude block none := by
  unfold includedTag at malformed
  split at malformed
  · cases malformed
  · split at malformed <;> cases malformed
    rfl

namespace Compiler

variable {σ : Type} {c : Compiler σ}

theorem ends_makeStatement_genuine (blames : c.connection.BlamesNoTemplate) (tag block : String)
    (desk : Desk σ) :
    Ends (c.makeStatement tag block) desk (fun _ _ => True)
      (fun e _ => e.Genuine c.library) := by
  apply ends_makeStatement_bad
  · intro e failed
    obtain ⟨mode, rfl, -⟩ := Statement.selectMode_of_draft failed
    intro _ same
    cases same
  · exact fun sql f raised => Error.genuine_of_not_compile ((raised.late sql).not_compile blames)
  · exact fun _ _ _ _ _ => Error.genuine_of_not_compile rfl

theorem foresees_genuine (c : Compiler σ) (blames : c.connection.BlamesNoTemplate)
    (missing : ∀ tag e, c.library.template tag = .error e → e.Genuine c.library) :
    c.Foresees (fun _ => True) (Error.Genuine c.library) where
  inward := fun _ _ => trivial
  missing := fun _ => missing _ _
  malformed := by
    intro tag block e _ _ malformed
    obtain rfl := Template.eq_malformedInclude malformed
    intro _ same
    cases same
  cyclic := by
    intro path tag inner _ walk distinct includes met _ same
    cases same
    exact ⟨path ++ [tag], inner, rfl, Library.isChain_concat walk includes, distinct, met⟩
  statement := fun {tag _} _ _ _ desk =>
    (ends_makeStatement_genuine blames tag _ desk).imp (fun _ _ _ => trivial)
      fun _ _ genuine => genuine.blame tag
  blame := fun tag => Error.Genuine.blame tag

-- The stack is a walk between different tags.
def walkingTour (m : c.Making) (blames : c.connection.BlamesNoTemplate) :
    Call.Tour m (fun _ => True) (Error.Genuine c.library) where
  Holds := Kept m
  Enters := fun stack tag => (stack ++ [tag]).IsChain c.library.Includes ∧ stack.Nodup
  Ran := fun _ _ => True
  kept := Steps.kept
  fine := fun _ => trivial
  cyclic := by
    intro stack tag enters met _ same
    cases same
    exact ⟨stack, tag, rfl, enters.1, enters.2, met⟩
  deep := fun _ _ _ _ same => nomatch same
  late := fun _ late => Error.genuine_of_not_compile (late.not_compile blames)
  inward := by
    intro desk stack tag chain inner kept enters fresh counts member
    have includes := (kept tag chain counts).mem_includes_iff.mp member
    exact ⟨Library.isChain_concat enters.1 includes, nodup_concat enters.2 fresh⟩
  ran := fun _ _ _ => trivial

end Compiler

namespace Book

variable {σ : Type} {setup : Setup σ} {book : Book σ}

theorem Reached.upheld (reached : Reached setup book) :
    Upheld (fun library => (setup.compiler library).classifying) book :=
  reached.upheld_of (fun _ => Connection.MovesBy.any _) fun _ _ => rfl

theorem Shelved.genuine_of_template {tag : String} {e : Error} (shelved : book.Shelved)
    (missing : book.library.template tag = .error e) : e.Genuine book.library := by
  obtain ⟨shelf, memory, -⟩ := shelved
  rw [Library.template_of_memory memory] at missing
  split at missing <;> cases missing
  exact fun _ same => nomatch same

theorem ends_prepare_genuine (blames : setup.connection.BlamesNoTemplate)
    (shelved : book.Shelved) (tags : List String) :
    Ends (prepare setup tags) book (fun _ _ => True) (fun e _ => e.Genuine book.library) := by
  have foreseen := (setup.compiler book.library).foresees_genuine blames
    fun _ _ => shelved.genuine_of_template
  exact ends_prepare_bad foreseen (Error.genuine_of_not_compile rfl) fun _ _ => trivial

theorem genuine_of_execute {m : (setup.compiler book.library).Making}
    (works : setup.connection.WorksBy m.Moves) (blames : setup.connection.BlamesNoTemplate)
    (shelved : book.Shelved) (kept : Kept m book.toDesk) {tag : String} {data : Fields} {e : Error}
    {t : Turn σ}
    (failed : Turn.execute setup tag ⟨book, data⟩ = .error e t) : e.Genuine book.library := by
  have foreseen := (setup.compiler book.library).foresees_genuine blames
    fun _ _ => shelved.genuine_of_template
  have holds : (walkingTour m blames).Holds (⟨book, data⟩ : Turn σ).toDesk := kept
  exact Turn.bad_of_execute works foreseen (walkingTour m blames) rfl trivial holds
    ⟨.singleton tag, .nil⟩ failed

/-- A cycle is reported only where the includes of the current templates make one. -/
theorem circles_of_includeCycle (blames : setup.connection.BlamesNoTemplate)
    (reached : Reached setup book) :
    (∀ tags chain t, prepare setup tags book = .error (.includeCycle chain) t →
      book.library.Circles chain) ∧
    (∀ tag data chain t, Turn.execute setup tag ⟨book, data⟩ = .error (.includeCycle chain) t →
      book.library.Circles chain) ∧
    ((∀ tag, ¬ Relation.TransGen book.library.Includes tag tag) →
      (∀ tags chain t, prepare setup tags book ≠ .error (.includeCycle chain) t) ∧
      ∀ tag data chain t,
        Turn.execute setup tag ⟨book, data⟩ ≠ .error (.includeCycle chain) t) := by
  obtain ⟨shelved, kept⟩ := reached.upheld
  have prepares (tags chain : List String) (t : Book σ)
      (failed : prepare setup tags book = .error (.includeCycle chain) t) :
      book.library.Circles chain :=
    (ends_prepare_genuine blames shelved tags).of_error failed chain rfl
  have executes (tag : String) (data : Fields) (chain : List String) (t : Turn σ)
      (failed : Turn.execute setup tag ⟨book, data⟩ = .error (.includeCycle chain) t) :
      book.library.Circles chain :=
    genuine_of_execute (m := (setup.compiler book.library).classifying)
      (Connection.MovesBy.any _).toWorksBy blames shelved kept failed chain rfl
  refine ⟨prepares, executes, fun acyclic => ⟨?_, ?_⟩⟩
  · intro tags chain t failed
    obtain ⟨met, cycle⟩ := (prepares tags chain t failed).exists_cycle
    exact acyclic met cycle
  · intro tag data chain t failed
    obtain ⟨met, cycle⟩ := (executes tag data chain t failed).exists_cycle
    exact acyclic met cycle

-- The template of the egg is edited when the chicken has a chain that includes it.
def loopedBook : Book Nat :=
  after limitedSetup (inMemory [("chicken", "include egg"), ("egg", "x")] .empty ⟨1, []⟩ true)
    [.prepare ["chicken"], .add "egg" "include egg"]

theorem statements_egg : Template.statements "include egg" = ["include egg"] := by
  rw [Template.statements_of_line (by decide) (by decide)]
  decide

theorem ends_compile_egg {c : Compiler σ}
    (looped : c.library.template "egg" = .ok "include egg") (desk : Desk σ) :
    Ends (c.compile "egg") desk (fun _ _ => False)
      (fun e _ => e = .includeCycle ["egg", "egg"]) := by
  rw [Compiler.compile, compileUnder_eq, ends_bind, Desk.ends_onCatalog]
  apply Catalog.ends_find
  · intro body source journal found _
    obtain rfl : body = "include egg" := Except.ok.inj (found.symm.trans looped)
    simp only [compileBody, statements_egg, List.mapM_cons, List.mapM_nil, ends_bind,
      Desk.ends_onCatalog, Catalog.note, ends_modify, ends_mapError, compileBlock, ends_ofExcept,
      show Template.includedTag "include egg" = .ok (some "egg") from rfl]
    rw [dif_pos (by decide)]
    rfl
  · intro e journal missing
    cases looped.symm.trans missing

theorem exists_prepare_looped :
    ∃ t, prepare limitedSetup ["egg"] loopedBook = .error (.includeCycle ["egg", "egg"]) t := by
  let start := inMemory [("chicken", "include egg"), ("egg", "x")] .empty (⟨1, []⟩ : Link Nat) true
  let before := after limitedSetup start [.prepare ["chicken"]]
  have reached : Reached limitedSetup before := ⟨_, _, _, _, _, rfl⟩
  obtain ⟨⟨shelf, memory, -, dated⟩, -⟩ := reached.upheld
  have advanced : Advances (limitedSetup.compiler start.library).classifying start before :=
    (ends_use_advances (Connection.MovesBy.any _) (u := .prepare ["chicken"]) rfl rfl).outcome
  have connected : loopedBook.connected = true := advanced.connected
  have edited : loopedBook.library.shelf = .memory (shelf.add "egg" "include egg") := by
    change before.library.shelf.add "egg" "include egg" = _
    rw [show before.library.shelf = .memory shelf from memory]
    rfl
  have looped : loopedBook.library.template "egg" = .ok "include egg" := by
    rw [Library.template_of_memory edited, MemoryShelf.add, Keyed.get?_put_self]
  have unmade : loopedBook.library.chain? loopedBook.cache "egg" = none :=
    Library.chain?_add_self memory dated "include egg"
  have failed : Ends (prepareTag limitedSetup "egg") loopedBook (fun _ _ => False)
      (fun e _ => e = .includeCycle ["egg", "egg"]) := by
    simp only [prepareTag, lookup, ends_bind, ends_library?, ends_onCatalog]
    apply Catalog.ends_lookup
    intro journal
    rw [unmade]
    simp only [compile, ends_discard, ends_bind, ends_ensureConnected, connected, if_true,
      ends_library?, ends_onDesk]
    exact ends_compile_egg looped _
  apply Ends.exists_error
  simp only [prepare, ends_bind, ends_ensureConnected, connected, if_true]
  change Ends (prepareTag limitedSetup "egg" >>= fun _ => pure ()) loopedBook _ _
  rw [ends_bind]
  exact failed.imp (fun _ _ ended => ended.elim) fun _ _ same => same

theorem circles_of_loopedBook :
    limitedSetup.connection.BlamesNoTemplate ∧ Reached limitedSetup loopedBook ∧
      (∃ t, prepare limitedSetup ["egg"] loopedBook = .error (.includeCycle ["egg", "egg"]) t) ∧
      loopedBook.library.Circles ["egg", "egg"] := by
  have reached : Reached limitedSetup loopedBook := ⟨_, _, _, _, _, rfl⟩
  obtain ⟨t, failed⟩ := exists_prepare_looped
  obtain ⟨prepares, -⟩ := circles_of_includeCycle blamesNoTemplate_limited reached
  exact ⟨blamesNoTemplate_limited, reached, ⟨t, failed⟩, prepares _ _ _ failed⟩

end Book

end QueryBook
