import QueryBook.Proofs.Lasting
import QueryBook.Proofs.Observed

set_option autoImplicit false

namespace QueryBook

open QueryBook.Action Connection

namespace Job

def Accepts (job : Job) (sql : String) (parameters : Nat) : Prop :=
  job.asked = .prepare sql parameters ∧ .explanation sql parameters none ∈ job.executions

def Refuses (job : Job) (sql : String) : Prop :=
  ∃ parameters fault, job.asked = .prepare sql parameters ∧
    .explanation sql parameters (some fault) ∈ job.executions

-- Whatever the driver ran for a job is an explanation of the text that is prepared, or the text of
-- a statement that has been explained before, with a null for each of the values.
inductive Follows (past : List Job) : Job → Prop where
  | idle (q : Asked) (fault : Option Fault) : Follows past ⟨q, [], fault⟩
  | explained (sql : String) (n : Nat) (refusal fault : Option Fault) :
    Follows past ⟨.prepare sql n, [.explanation sql n refusal], fault⟩
  | executed {h : Handle} {values : List Value} {earlier : Job}
      (answer : Except Fault (Option Int)) (fault : Option Fault) (member : earlier ∈ past)
      (accepts : earlier.Accepts h.sql values.length) :
    Follows past ⟨.execute h values answer, [⟨h.sql, values, fault⟩], fault⟩

theorem Refuses.unique {job : Job} {sql other : String} (refuses : job.Refuses sql)
    (refuses' : job.Refuses other) : sql = other := by
  obtain ⟨n, fault, asked, -⟩ := refuses
  obtain ⟨n', fault', asked', -⟩ := refuses'
  cases asked.symm.trans asked'
  rfl

end Job

def Validated (jobs : List Job) : Prop :=
  ∀ front job back, jobs = front ++ job :: back → job.Follows front

theorem validated_nil : Validated [] := by
  intro front job back split
  simp at split

theorem Validated.concat {jobs : List Job} {job : Job} (validated : Validated jobs)
    (follows : job.Follows jobs) : Validated (jobs ++ [job]) := by
  intro front later back split
  rcases List.append_eq_append_iff.mp split with ⟨middle, rfl, rest⟩ | ⟨middle, rfl, rest⟩
  · cases middle with
    | nil =>
      cases rest
      simpa using follows
    | cons other middle => simp at rest
  · cases middle with
    | nil =>
      cases rest
      simpa using follows
    | cons other middle =>
      rw [List.cons_append, List.cons.injEq] at rest
      obtain ⟨rfl, rfl⟩ := rest
      exact validated front later middle rfl

namespace Observed

variable {σ : Type} {s t u : Observed σ} {e : Error}

structure Works (s t : Observed σ) : Prop where
  done : ∃ jobs, t.jobs = s.jobs ++ jobs ∧ ∀ job ∈ jobs, ∀ sql, ¬ job.Refuses sql
  validated : Validated s.jobs → Validated t.jobs

structure Breaks (e : Error) (s t : Observed σ) : Prop where
  done : ∃ front job, t.jobs = s.jobs ++ (front ++ [job]) ∧
    (∀ earlier ∈ front, ∀ sql, ¬ earlier.Refuses sql) ∧
    ∃ sql name text, job.Refuses sql ∧ e = .driver name text (some sql)
  validated : Validated s.jobs → Validated t.jobs

def Fails (e : Error) (s t : Observed σ) : Prop :=
  Works s t ∨ Breaks e s t

theorem Works.refl (s : Observed σ) : Works s s :=
  ⟨⟨[], by simp⟩, id⟩

theorem Works.trans (first : Works s t) (second : Works t u) : Works s u where
  done := by
    obtain ⟨jobs, same, accepted⟩ := first.done
    obtain ⟨more, same', accepted'⟩ := second.done
    refine ⟨jobs ++ more, by rw [same', same, List.append_assoc], ?_⟩
    exact fun job member => (List.mem_append.mp member).elim (accepted job) (accepted' job)
  validated := second.validated ∘ first.validated

theorem Breaks.after (first : Works s t) (second : Breaks e t u) : Breaks e s u where
  done := by
    obtain ⟨jobs, same, accepted⟩ := first.done
    obtain ⟨front, job, same', accepted', refused⟩ := second.done
    refine ⟨jobs ++ front, job, by rw [same', same]; simp, ?_, refused⟩
    exact fun job member => (List.mem_append.mp member).elim (accepted job) (accepted' job)
  validated := second.validated ∘ first.validated

theorem Fails.after (first : Works s t) (failed : Fails e t u) : Fails e s u :=
  failed.imp first.trans (.after first)

theorem Fails.blame (tag : String) (failed : Fails e s t) : Fails (e.blame tag) s t := by
  rcases failed with works | ⟨⟨front, job, same, accepted, sql, name, text, refuses, rfl⟩, valid⟩
  · exact .inl works
  · exact .inr ⟨⟨front, job, same, accepted, sql, name, text, refuses, rfl⟩, valid⟩

theorem Works.grows (works : Works s t) : s.jobs <+: t.jobs := by
  obtain ⟨jobs, same, -⟩ := works.done
  exact ⟨jobs, same.symm⟩

theorem Fails.grows (failed : Fails e s t) : s.jobs <+: t.jobs := by
  rcases failed with works | ⟨⟨front, job, same, -⟩, -⟩
  · exact works.grows
  · exact ⟨_, same.symm⟩

theorem Works.of_job {job : Job} (same : t.jobs = s.jobs ++ [job])
    (follows : Validated s.jobs → job.Follows s.jobs) (accepted : ∀ sql, ¬ job.Refuses sql) :
    Works s t where
  done := ⟨[job], same, by simpa using accepted⟩
  validated := fun validated => same ▸ validated.concat (follows validated)

theorem Works.of_idle {q : Asked} {fault : Option Fault}
    (same : t.jobs = s.jobs ++ [⟨q, [], fault⟩]) : Works s t :=
  .of_job same (fun _ => .idle q fault) (by simp [Job.Refuses])

variable {α : Type} {q : Asked} {request : Request (Observed σ) α}

theorem Asks.works (asks : Asks q request) (s : Observed σ) : EndsIn request s (Works s) :=
  (asks s).imp (fun _ _ => .of_idle) fun _ _ => .of_idle

theorem Asks.grows (asks : Asks q request) (s : Observed σ) :
    EndsIn request s (fun t => s.jobs <+: t.jobs) :=
  (asks.works s).mono fun _ => Works.grows

end Observed

def Explained (jobs : List Job) (sql : String) (parameters : Nat) : Prop :=
  ∃ job ∈ jobs, job.Accepts sql parameters

theorem Explained.mono {jobs later : List Job} {sql : String} {n : Nat}
    (explained : Explained jobs sql n) (grows : jobs <+: later) : Explained later sql n := by
  obtain ⟨job, member, accepts⟩ := explained
  exact ⟨job, grows.subset member, accepts⟩

def Statement.Explained (s : Statement) (jobs : List Job) : Prop :=
  ∀ h, s.handle = some h → QueryBook.Explained jobs h.sql s.marked.bindNames.length

theorem Statement.Explained.mono {s : Statement} {jobs later : List Job}
    (explained : s.Explained jobs) (grows : jobs <+: later) : s.Explained later :=
  fun h held => (explained h held).mono grows

namespace Connection.Validates

variable {σ : Type} {conn : Connection (Observed σ)} (validates : conn.Validates)

include validates

theorem ends_prepareText (sql : String) (n : Nat) (s : Observed σ) :
    Ends (Statement.prepareText conn sql n) s
      (fun h t => s.Works t ∧ h.sql = sql ∧ Explained t.jobs sql n)
      (fun e t => s.Fails e t) := by
  have accepted (fault : Option Fault) (sql' : String) :
      ¬ Job.Refuses ⟨.prepare sql n, [.explanation sql n none], fault⟩ sql' := by
    simp [Job.Refuses, Execution.explanation]
  simp only [Statement.prepareText, ends_request]
  apply (validates.prepare sql n s).imp
  · intro h t ended
    obtain ⟨rfl, same⟩ := ended
    refine ⟨.of_job same (fun _ => .explained ..) (accepted none), rfl,
      ⟨.prepare h.sql n, [.explanation h.sql n none], none⟩, by simp [same], rfl, ?_⟩
    exact List.mem_singleton.mpr rfl
  · intro f t failed
    obtain ⟨tried, tries, same⟩ := failed
    cases tries with
    | unexplained => exact .inl (.of_idle same)
    | explained => exact .inl (.of_job same (fun _ => .explained ..) (accepted _))
    | refused name text fault =>
      refine .inr ⟨⟨[], _, same, by simp, sql, name, text, ⟨n, fault, rfl, ?_⟩, rfl⟩, ?_⟩
      · exact List.mem_singleton.mpr rfl
      · exact fun validated => same ▸ validated.concat (.explained ..)

theorem readsBy_works : conn.ReadsBy Observed.Works where
  refl := Observed.Works.refl
  trans := Observed.Works.trans
  describe h := (validates.describe h).works
  fetch h := (validates.fetch h).works

theorem movesBy_grows : conn.MovesBy fun s t => s.jobs <+: t.jobs where
  refl := fun s => List.prefix_refl s.jobs
  trans := List.IsPrefix.trans
  prepare sql n s := by
    apply (validates.prepare sql n s).imp
    · exact fun _ _ ended => ⟨_, ended.2.symm⟩
    · intro f t failed
      obtain ⟨tried, -, same⟩ := failed
      exact ⟨_, same.symm⟩
  execute h values s :=
    (validates.execute h values s).imp (fun _ _ same => ⟨_, same.symm⟩) fun _ _ same =>
      ⟨_, same.symm⟩
  describe h := (validates.describe h).grows
  fetch h := (validates.fetch h).grows
  commit := validates.commit.grows
  rollback := validates.rollback.grows

end Connection.Validates

namespace Statement

variable {σ : Type} {conn : Connection (Observed σ)} {s : Statement}

theorem ends_ready_works (validates : conn.Validates) (data : Fields) (state : Observed σ)
    (explained : s.Explained state.jobs) :
    Ends (s.ready conn data) state
      (fun found t => state.Works t ∧
        QueryBook.Explained t.jobs found.2.sql s.marked.bindNames.length)
      (fun e t => state.Fails e t) := by
  unfold ready
  cases held : s.handle with
  | some h => exact ⟨.refl state, explained h held⟩
  | none =>
    simp only [ends_bind, ends_ofExcept, ends_pure]
    cases s.textFor data with
    | error e => exact .inl (.refl state)
    | ok sql =>
      apply (validates.ends_prepareText sql s.marked.bindNames.length state).imp
      · intro h t prepared
        obtain ⟨works, rfl, explained⟩ := prepared
        exact ⟨works, explained⟩
      · exact fun _ _ failed => failed

theorem length_parameters {data : Fields} {values : List Value}
    (resolved : s.parameters data = .ok values) : values.length = s.marked.bindNames.length :=
  (mapM_eq_ok_iff.mp resolved).length_eq.symm

def progressOf (validates : conn.Validates) (start : Observed σ) (data : Fields)
    (explained : s.Explained start.jobs) : Progress conn s start data where
  Ready _ h t := start.Works t ∧ QueryBook.Explained t.jobs h.sql s.marked.bindNames.length
  Reads _ _ t := start.Works t
  Left e t := start.Fails e t
  ready := ends_ready_works validates data start explained
  valueless ready _ := .inl ready.1
  execute := by
    rintro sql h t values ⟨works, job, member, accepts⟩ resolved
    rw [← length_parameters resolved] at accepts
    have executed {answer : Except Fault (Option Int)} {fault : Option Fault} {u : Observed σ}
        (same : u.jobs = t.jobs ++
          [⟨.execute h values answer, [⟨h.sql, values, fault⟩], fault⟩]) :
        start.Works u :=
      works.trans (.of_job same (fun _ => .executed answer fault member accepts)
        (by simp [Job.Refuses]))
    exact (validates.execute h values t).imp (fun _ _ => executed)
      fun _ _ same _ => .inl (executed same)
  describe works := ((validates.readsBy_works).describe _ _).imp (fun _ _ => works.trans)
    fun _ _ later _ => .inl (works.trans later)
  fetch works := ((validates.readsBy_works).fetch _ _).imp (fun _ _ => works.trans)
    fun _ _ later _ => .inl (works.trans later)
  left _ works := .inl works

theorem ends_execute_works (validates : conn.Validates) (stage : Stage (Observed σ))
    (explained : s.Explained stage.conn.jobs) :
    Ends (s.execute conn) stage (fun _ t => stage.conn.Works t.conn)
      (fun e t => stage.conn.Fails e t.conn) := by
  apply (progressOf validates stage.conn stage.data explained).ends_execute.imp
  · rintro n t ⟨-, _, _, -, works⟩
    exact works
  · exact fun _ _ failed => failed.2.2

theorem ends_create_works (validates : conn.Validates) (style : Option MarkerStyle)
    (placement : Placement) (block : String) (state : Observed σ) :
    Ends (create conn style placement block) state
      (fun s t => state.Works t ∧ s.Explained t.jobs) (fun e t => state.Fails e t) := by
  rw [create_eq]
  simp only [ends_bind, ends_ofExcept]
  cases drafted : draft (style.getD conn.style) placement block with
  | error e => exact .inl (.refl state)
  | ok d =>
    have unprepared := handle_of_draft drafted
    simp only
    split
    · exact ⟨.refl state, fun h held => by simp [unprepared] at held⟩
    · simp only [ends_bind, ends_pure]
      apply (validates.ends_prepareText d.sql d.marked.bindNames.length state).imp
      · intro h t prepared
        obtain ⟨works, same, explained⟩ := prepared
        refine ⟨works, fun h' held => ?_⟩
        cases held
        rwa [same]
      · exact fun _ _ failed => failed

end Statement

namespace Desk

variable {σ α β : Type}

def Heeds (act : Action (Desk (Observed σ)) α) : Prop :=
  ∀ desk, Ends act desk (fun _ t => desk.conn.Works t.conn) (fun e t => desk.conn.Fails e t.conn)

theorem passage_heeds : Passage (fun s t : Desk (Observed σ) => s.conn.Works t.conn)
    fun s e t => s.conn.Fails e t.conn where
  refl desk := .refl desk.conn
  trans := .trans
  after works failed := failed.after works

theorem heeds_pure (a : α) : Heeds (pure a : Action (Desk (Observed σ)) α) :=
  fun desk => .refl desk.conn

theorem heeds_bind {act : Action (Desk (Observed σ)) β}
    {next : β → Action (Desk (Observed σ)) α} (first : Heeds act) (rest : ∀ b, Heeds (next b)) :
    Heeds (act >>= next) :=
  fun desk => passage_heeds.bind (first desk) rest

theorem heeds_onCatalog (act : Action Catalog α) :
    Heeds (onCatalog act : Action (Desk (Observed σ)) α) := by
  intro desk
  rw [ends_onCatalog]
  exact (ends_self _ _).imp (fun _ _ _ => .refl desk.conn) fun _ _ _ => .inl (.refl desk.conn)

theorem heeds_blame {act : Action (Desk (Observed σ)) α} (tag : String) (heeds : Heeds act) :
    Heeds (act.mapError (Error.blame tag)) := by
  intro desk
  rw [ends_mapError]
  exact (heeds desk).imp (fun _ _ works => works) fun _ _ failed => failed.blame tag

theorem heeds_mapM {act : α → Action (Desk (Observed σ)) β} (each : ∀ a, Heeds (act a))
    (xs : List α) : Heeds (xs.mapM act) :=
  passage_heeds.mapM xs fun x _ => each x

end Desk

namespace Compiler

variable {σ : Type} {c : Compiler (Observed σ)} (validates : c.connection.Validates)

include validates

theorem heeds_makeStatement (tag block : String) : Desk.Heeds (c.makeStatement tag block) := by
  intro desk
  simp only [makeStatement, ends_bind, Desk.ends_onConn, ends_pure]
  apply (Statement.ends_create_works validates c.style c.placement block desk.conn).imp
  · intro s conn created
    apply ends_checkLabels
    · exact fun _ _ => created.1
    · exact fun _ _ _ _ => .inl created.1
  · exact fun _ _ failed => failed

theorem heeds_compileBlock {path : List String} {tag : String}
    {includeTag : (inner : String) → inner ∉ path → Action (Desk (Observed σ)) Chain}
    (recursion : ∀ inner fresh, Desk.Heeds (includeTag inner fresh)) (block : String) :
    Desk.Heeds (c.compileBlock tag path includeTag block) := by
  intro desk
  cases named : Template.includedTag block with
  | error e =>
    simp only [compileBlock, named, ends_bind, ends_ofExcept]
    exact .inl (.refl desk.conn)
  | ok target =>
    cases target with
    | none =>
      rw [compileBlock_of_statement named, ends_map]
      exact heeds_makeStatement validates tag block desk
    | some inner =>
      simp only [compileBlock, named, ends_bind, ends_ofExcept]
      split
      · exact .inl (.refl desk.conn)
      next fresh =>
        simp only [ends_bind, Desk.ends_onCatalog]
        apply Catalog.ends_lookup
        intro journal
        cases c.library.chain? desk.cache inner with
        | some chain => exact .refl desk.conn
        | none =>
          simp only [ends_bind, ends_discard, ends_pure]
          exact recursion inner fresh { desk with journal }

-- By induction on how many tags can still be found that are not on the path.
theorem heeds_compileUnder (path : List String) (tag : String) (fresh : tag ∉ path) :
    Desk.Heeds (c.compileUnder path tag fresh) := by
  induction room : (c.library.remaining path).length using Nat.strongRecOn
    generalizing path tag with
  | ind room ih =>
    intro desk
    rw [compileUnder_eq]
    simp only [ends_bind, Desk.ends_onCatalog]
    apply Catalog.ends_find
    · intro body source journal _ resolved
      have less := Library.length_remaining_lt (Shelf.mem_findable resolved) fresh
      have block (block : String) :
          Desk.Heeds (Action.mapError (Error.blame tag) <|
            c.compileBlock tag (path ++ [tag])
              (fun inner fresh => c.compileUnder (path ++ [tag]) inner fresh) block) := by
        apply Desk.heeds_blame
        apply heeds_compileBlock validates
        exact fun inner fresh' => ih _ (room ▸ less) (path ++ [tag]) inner fresh' rfl
      refine Desk.heeds_bind (Desk.heeds_onCatalog _) (fun _ => ?_) _
      refine Desk.heeds_bind (Desk.heeds_mapM block _) fun entries => ?_
      exact Desk.heeds_bind (Desk.heeds_onCatalog _) fun _ => Desk.heeds_pure _
    · exact fun _ _ _ => .inl (.refl desk.conn)

end Compiler

end QueryBook
