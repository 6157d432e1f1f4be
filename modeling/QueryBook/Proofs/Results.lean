import QueryBook.Proofs.Sending

set_option autoImplicit false

namespace QueryBook

open QueryBook.Action Connection

theorem Stage.Leaves.of_error {σ α : Type} {act : Action (Stage σ) α} {stage after : Stage σ}
    {result : Except Error α} {data : Fields} {conn : σ} {e : Error}
    (leaves : Leaves act stage result data conn) (failed : act stage = .error e after) :
    .error e = result ∧ after.data = data ∧ after.conn = conn :=
  leaves.of_outcome (outcome_of_error failed)

variable {σ : Type} {conn : Connection σ} {s : Statement} {data data' : Fields} {state t u : σ}
  {asked : List Asked} {sql : String} {h : Handle}

namespace Statement

def FirstRow (conn : Connection σ) (s : Statement) (data : Fields) (state : σ) (sql : String)
    (h : Handle) (row : Fields) (u : σ) : Prop :=
  ∃ asked values t affected v, s.Reaches conn data state asked sql h values t ∧
    conn.execute h values t = .ok affected v ∧ conn.fetch h v = .ok (some row) u

theorem ReadsAll.data_of_error {e : Error}
    (reads : ReadsAll conn sql h data state asked (.error e) data' t) : data' = data := by
  cases reads <;> rfl

theorem ReadsOne.data_of_error {placement : Placement} {required : Bool} {e : Error}
    (reads : ReadsOne conn placement required sql h data state asked (.error e) data' t) :
    data' = data ∨ ∃ row u, conn.fetch h state = .ok (some row) u := by
  generalize failed : (Except.error e : Except Error Unit) = result at reads
  cases reads with
  | broken _ | empty _ => exact .inl rfl
  | unmerged found _ | unended found _ _ | single found _ _ | several found _ _ =>
    exact .inr ⟨_, _, found⟩

theorem Collects.of_error {affected : Option Int} {e : Error}
    (collects : s.Collects conn sql h affected data state asked (.error e) data' t) :
    (s.kind = .zeroOrMore ∧ ReadsAll conn sql h data state asked (.error e) data' t) ∨
      ∃ required : Bool, s.kind = (if required then .exactlyOne else .zeroOrOne) ∧
        ReadsOne conn s.placement required sql h data state asked (.error e) data' t := by
  generalize failed : (Except.error e : Except Error Nat) = result at collects
  cases collects with
  | mutation _ => cases failed
  | @all _ result _ _ kind reads =>
    cases result <;> cases failed
    exact .inl ⟨kind, reads⟩
  | @one _ result _ _ required kind reads =>
    cases result <;> cases failed
    exact .inr ⟨required, kind, reads⟩

theorem exists_required :
    (∃ required : Bool, s.kind = if required then .exactlyOne else .zeroOrOne) ↔
      s.kind = .zeroOrOne ∨ s.kind = .exactlyOne := by
  simp

theorem Course.data_of_error {e : Error}
    (course : s.Course conn data state asked (.error e) data' t) :
    data' = data ∨ (s.kind = .zeroOrOne ∨ s.kind = .exactlyOne) ∧
      ∃ sql h row u, s.FirstRow conn data state sql h row u := by
  cases course with
  | unready _ | unbound _ _ | rejected _ _ => exact .inl rfl
  | executed reaches accepted collects =>
    obtain ⟨-, reads⟩ | ⟨required, kind, reads⟩ := collects.of_error
    · exact .inl reads.data_of_error
    · apply reads.data_of_error.imp_right
      rintro ⟨row, u, found⟩
      exact ⟨exists_required.mp ⟨required, kind⟩,
        _, _, row, u, _, _, _, _, _, reaches, accepted, found⟩

theorem FirstRow.of_failed {stage after : Stage σ} {e : Error} {row : Fields}
    (firstRow : s.FirstRow conn stage.data stage.conn sql h row u)
    (kind : s.kind = .zeroOrOne ∨ s.kind = .exactlyOne)
    (failed : s.execute conn stage = .error e after) :
    (s.placement.mergeRow row stage.data = .error e after.data) ∨
      (s.placement.mergeRow row stage.data = .ok () after.data ∧
        ((∃ f v, conn.fetch h u = .error f v ∧ e = .wrapFault (some sql) f) ∨
          ∃ second v, conn.fetch h u = .ok (some second) v ∧ e = .multipleResults (some sql))) := by
  obtain ⟨asked, values, t, affected, v, reaches, accepted, found⟩ := firstRow
  obtain ⟨required, kind⟩ := exists_required.mpr kind
  -- The run has one end, so the way that fits what the connection does is the way that failed.
  have ended {reading : List Asked} {result : Except Error Unit} {data' : Fields} {w : σ}
      (reads : ReadsOne conn s.placement required sql h stage.data v reading result data' w) :
      .error e = result.map (fun _ => 0) ∧ after.data = data' := by
    have course := Course.executed reaches accepted (.one required kind reads)
    obtain ⟨raised, left, -⟩ := course.leaves.of_error failed
    exact ⟨raised, left⟩
  cases merged : s.placement.mergeRow row stage.data with
  | error e' data' =>
    obtain ⟨raised, left⟩ := ended (.unmerged found merged)
    cases raised
    exact .inl (by rw [left])
  | ok _ data' =>
    right
    cases next : conn.fetch h u with
    | error f w =>
      obtain ⟨raised, left⟩ := ended (.unended found merged next)
      cases raised
      exact ⟨by rw [left], .inl ⟨f, w, rfl, rfl⟩⟩
    | ok more w =>
      cases more with
      | none =>
        obtain ⟨raised, -⟩ := ended (.single found merged next)
        cases raised
      | some second =>
        obtain ⟨raised, left⟩ := ended (.several found merged next)
        cases raised
        exact ⟨by rw [left], .inr ⟨second, w, rfl, rfl⟩⟩

/-- A run that fails leaves the data as it was, but for the columns of a first row that had been
written. -/
theorem data_of_failed_execute {stage after : Stage σ} {e : Error}
    (failed : s.execute conn stage = .error e after) :
    (s.kind = .mutation ∨ s.kind = .zeroOrMore → after.data = stage.data) ∧
    (s.kind = .zeroOrOne ∨ s.kind = .exactlyOne →
      ((∀ sql h row u, ¬ s.FirstRow conn stage.data stage.conn sql h row u) →
        after.data = stage.data) ∧
      ∀ sql h row u, s.FirstRow conn stage.data stage.conn sql h row u →
        (∃ merged label value rest, row = merged ++ (label, value) :: rest ∧
          s.placement.mergeRow merged stage.data = .ok () after.data ∧
          s.placement.storeColumn after.data label value = .error e) ∨
        (s.placement.mergeRow row stage.data = .ok () after.data ∧
          ((∃ f v, conn.fetch h u = .error f v ∧ e = .wrapFault (some sql) f) ∨
            ∃ second v, conn.fetch h u = .ok (some second) v ∧
              e = .multipleResults (some sql)))) := by
  obtain ⟨asked, course⟩ := course_of_outcome (outcome_of_error failed)
  have written := course.data_of_error
  refine ⟨fun kind => ?_, fun kind => ⟨fun never => ?_, fun sql h row u firstRow => ?_⟩⟩
  · apply written.resolve_right
    rintro ⟨single, -⟩
    rcases kind with kind | kind <;> simp [kind] at single
  · apply written.resolve_right
    rintro ⟨-, sql, h, row, u, firstRow⟩
    exact never sql h row u firstRow
  · exact (firstRow.of_failed kind failed).imp_left Placement.mergeRow_eq_error_iff.mp

end Statement

def Connection.countdown : Connection Nat where
  style := .question
  prepare := fun sql _ => pure ⟨0, sql⟩
  execute := fun _ _ => pure none
  describe := fun _ => pure ["n"]
  fetch := fun
    | _, 0 => .ok none 0
    | _, n + 1 => .ok (some [("n", .int n)]) n
  commit := pure ()
  rollback := pure ()
  close := pure ()
  rowsLeft := fun _ n => n
  rowsLeft_fetch := by
    intro h s row t fetched
    cases s <;> grind

namespace Statement

def counted : Statement where
  source := "SELECT1 n FROM t"
  kind := .exactlyOne
  marked := ⟨.question, "SELECT n FROM t", [], []⟩
  placement := .plain
  handle := some ⟨0, "SELECT n FROM t"⟩

theorem data_of_failed_execute_counted :
    let stage : Stage Nat := ⟨⟨2, []⟩, [("m", .text "kept")]⟩
    ∃ e after, counted.execute countdown stage = .error e after ∧
      e = .multipleResults (some counted.sql) ∧
      after.data = [("m", .text "kept"), ("n", .int 1)] := by
  intro stage
  have failed : ∃ after, counted.execute countdown stage =
      .error (.multipleResults (some counted.sql)) after := ⟨_, rfl⟩
  obtain ⟨after, failed⟩ := failed
  refine ⟨_, after, failed, rfl, ?_⟩
  have firstRow : counted.FirstRow countdown stage.data 2 counted.sql ⟨0, "SELECT n FROM t"⟩
      [("n", .int 1)] 1 := ⟨[], [], 2, none, 2, ⟨.held rfl, rfl⟩, rfl, rfl⟩
  obtain ⟨merged, label, value, rest, -, -, stored⟩ | ⟨merged, -⟩ :=
    ((data_of_failed_execute failed).2 (.inr rfl)).2 _ _ _ _ firstRow
  · cases Placement.kind_of_storeColumn stored
  · have written : counted.placement.mergeRow [("n", .int 1)] stage.data =
        .ok () [("m", .text "kept"), ("n", .int 1)] := rfl
    exact (EStateM.Result.ok.inj (written.symm.trans merged)).2.symm

end Statement

def Fault.isForeign : Fault → Bool
  | .foreign _ _ => true
  | _ => false

namespace Connection

structure Foreign (conn : Connection σ) : Prop where
  prepare : ∀ {sql n s f t}, conn.prepare sql n s = .error f t → f.isForeign = true
  execute : ∀ {h values s f t}, conn.execute h values s = .error f t → f.isForeign = true
  describe : ∀ {h s f t}, conn.describe h s = .error f t → f.isForeign = true
  fetch : ∀ {h s f t}, conn.fetch h s = .error f t → f.isForeign = true

theorem Foreign.recorded (foreign : conn.Foreign) : conn.recorded.Foreign where
  prepare failed := by
    simp only [Connection.recorded, record_eq_error_iff] at failed
    exact foreign.prepare failed.1
  execute failed := by
    simp only [Connection.recorded, record_eq_error_iff] at failed
    exact foreign.execute failed.1
  describe failed := by
    simp only [Connection.recorded, record_eq_error_iff] at failed
    exact foreign.describe failed.1
  fetch failed := by
    simp only [Connection.recorded, record_eq_error_iff] at failed
    exact foreign.fetch failed.1

theorem Foreign.gives (foreign : conn.Foreign) {h : Handle} {s t : σ} {rows : List Fields}
    {f : Fault} (gives : conn.Gives h s rows (some f) t) : f.isForeign = true := by
  generalize broken : some f = fault at gives
  induction gives with
  | ended _ => cases broken
  | broken failed =>
    cases broken
    exact foreign.fetch failed
  | row _ _ ih => exact ih broken

end Connection

def Error.AboutSql (e : Error) (sql : String) : Prop :=
  e.report.facts = [("sql", .text sql)]

theorem Fault.about_wrapFault {f : Fault} (foreign : f.isForeign = true) :
    (Error.wrapFault (some sql) f).kind = .driver ∧
      (Error.wrapFault (some sql) f).AboutSql sql := by
  cases f <;> first | exact ⟨rfl, rfl⟩ | cases foreign

namespace Statement

theorem Readies.sql_unique {asked' : List Asked} {sql' : String} {h' : Handle}
    (ready : s.Readies conn data state asked sql h t)
    (ready' : s.Readies conn data state asked' sql' h' u) : sql = sql' := by
  cases ready with
  | held held =>
    cases ready' with
    | held _ => rfl
    | prepared unheld _ _ => cases held.symm.trans unheld
  | prepared unheld filled _ =>
    cases ready' with
    | held held => cases held.symm.trans unheld
    | prepared _ filled' _ => exact Except.ok.inj (filled.symm.trans filled')

theorem Unready.not_ready {asked' : List Asked} {e : Error}
    (unready : s.Unready conn data state asked e t) :
    ¬ s.Readies conn data state asked' sql h u := by
  intro ready
  cases unready with
  | textless unheld failed =>
    cases ready with
    | held held => cases held.symm.trans unheld
    | prepared _ filled _ => cases failed.symm.trans filled
  | refused unheld filled refused =>
    cases ready with
    | held held => cases held.symm.trans unheld
    | prepared _ filled' accepted =>
      cases filled.symm.trans filled'
      cases refused.symm.trans accepted

structure TakesOne (conn : Connection (Recorded σ)) (s : Statement) (sql : String) (h : Handle)
    (data : Fields) (u : Recorded σ) (result : Except Error Nat) (after : Stage (Recorded σ)) :
    Prop where
  empty : ∀ {v}, conn.Gives h u [] none v →
    result = (if s.kind = .exactlyOne then .error (.noResult (some sql)) else .ok 0) ∧
      after.data = data ∧ after.conn.asked = u.asked ++ [.fetch h]
  broken : ∀ {name text v}, conn.Gives h u [] (some (.foreign name text)) v →
    result = .error (.driver name text (some sql)) ∧
      after.data = data ∧ after.conn.asked = u.asked ++ [.fetch h]
  unmerged : ∀ {row rows fault v e d}, conn.Gives h u (row :: rows) fault v →
    s.placement.mergeRow row data = .error e d →
    result = .error e ∧ e.kind = .dataShape ∧
      after.data = d ∧ after.conn.asked = u.asked ++ [.fetch h]
  single : ∀ {row v d}, conn.Gives h u [row] none v → s.placement.mergeRow row data = .ok () d →
    result = .ok 0 ∧ after.data = d ∧ after.conn.asked = u.asked ++ [.fetch h, .fetch h]
  unended : ∀ {row name text v d}, conn.Gives h u [row] (some (.foreign name text)) v →
    s.placement.mergeRow row data = .ok () d →
    result = .error (.driver name text (some sql)) ∧
      after.data = d ∧ after.conn.asked = u.asked ++ [.fetch h, .fetch h]
  several : ∀ {row second rows fault v d}, conn.Gives h u (row :: second :: rows) fault v →
    s.placement.mergeRow row data = .ok () d →
    result = .error (.multipleResults (some sql)) ∧
      after.data = d ∧ after.conn.asked = u.asked ++ [.fetch h, .fetch h]

structure TakesAll (conn : Connection (Recorded σ)) (sql : String) (h : Handle)
    (data : Fields) (u : Recorded σ) (result : Except Error Nat) (after : Stage (Recorded σ)) :
    Prop where
  undescribed : ∀ {name text v}, conn.describe h u = .error (.foreign name text) v →
    result = .error (.driver name text (some sql)) ∧
      after.data = data ∧ after.conn.asked = u.asked ++ [.describe h]
  broken : ∀ {labels v rows name text w}, conn.describe h u = .ok labels v →
    conn.Gives h v rows (some (.foreign name text)) w →
    result = .error (.driver name text (some sql)) ∧ after.data = data ∧
      after.conn.asked = u.asked ++ .describe h :: List.replicate (rows.length + 1) (.fetch h)
  unassigned : ∀ {labels v rows w e}, conn.describe h u = .ok labels v →
    conn.Gives h v rows none w → Data.assignRows data labels rows = .error e →
    result = .error e ∧ e.kind = .dataShape ∧ after.data = data ∧
      after.conn.asked = u.asked ++ .describe h :: List.replicate (rows.length + 1) (.fetch h)
  assigned : ∀ {labels v rows w d}, conn.describe h u = .ok labels v →
    conn.Gives h v rows none w → Data.assignRows data labels rows = .ok d →
    result = .ok 0 ∧ after.data = d ∧
      after.conn.asked = u.asked ++ .describe h :: List.replicate (rows.length + 1) (.fetch h)

section Executed

variable {stage after : Stage (Recorded σ)} {result : Except Error Nat} {values : List Value}
  {affected : Option Int} {t u : Recorded σ}

theorem Collects.of_outcome {reading : List Asked} {result' : Except Error Nat} {v : Recorded σ}
    (collects : s.Collects conn.recorded sql h affected stage.data u reading result' data' v)
    (reaches : s.Reaches conn.recorded stage.data stage.conn asked sql h values t)
    (accepted : conn.recorded.execute h values t = .ok affected u)
    (ran : (s.execute conn.recorded).outcome stage = (result, after)) :
    result = result' ∧ after.data = data' ∧ after.conn.asked = u.asked ++ reading := by
  have course := Course.executed reaches accepted collects
  obtain ⟨same, written, left⟩ := course.leaves.of_outcome ran
  exact ⟨same, written, by rw [left, collects.asked_eq]⟩

theorem takesOne (kind : s.kind = .zeroOrOne ∨ s.kind = .exactlyOne)
    (reaches : s.Reaches conn.recorded stage.data stage.conn asked sql h values t)
    (accepted : conn.recorded.execute h values t = .ok affected u)
    (ran : (s.execute conn.recorded).outcome stage = (result, after)) :
    TakesOne conn.recorded s sql h stage.data u result after := by
  obtain ⟨required, kind⟩ := exists_required.mpr kind
  have ended {reading : List Asked} {result' : Except Error Unit} {data' : Fields}
      {v : Recorded σ}
      (reads : ReadsOne conn.recorded s.placement required sql h stage.data u reading result'
        data' v) :
      result = result'.map (fun _ => 0) ∧ after.data = data' ∧
        after.conn.asked = u.asked ++ reading :=
    Collects.of_outcome (.one required kind reads) reaches accepted ran
  constructor
  case empty =>
    rintro v (last | _)
    obtain ⟨same, left⟩ := ended (.empty last)
    refine ⟨?_, left⟩
    cases required <;> simpa [kind, Except.map] using same
  case broken =>
    rintro name text v (_ | failed)
    exact ended (.broken failed)
  case unmerged =>
    rintro row rows fault v e d (_ | _ | ⟨found, _⟩) rejected
    obtain ⟨same, left⟩ := ended (.unmerged found rejected)
    exact ⟨same, Placement.kind_of_mergeRow rejected, left⟩
  case single =>
    rintro row v d (_ | _ | ⟨found, last | _⟩) merged
    exact ended (.single found merged last)
  case unended =>
    rintro row name text v d (_ | _ | ⟨found, _ | failed⟩) merged
    exact ended (.unended found merged failed)
  case several =>
    rintro row second rows fault v d (_ | _ | ⟨found, _ | _ | ⟨more, _⟩⟩) merged
    exact ended (.several found merged more)

theorem takesAll (kind : s.kind = .zeroOrMore)
    (reaches : s.Reaches conn.recorded stage.data stage.conn asked sql h values t)
    (accepted : conn.recorded.execute h values t = .ok affected u)
    (ran : (s.execute conn.recorded).outcome stage = (result, after)) :
    TakesAll conn.recorded sql h stage.data u result after := by
  have ended {reading : List Asked} {result' : Except Error Unit} {data' : Fields}
      {v : Recorded σ}
      (reads : ReadsAll conn.recorded sql h stage.data u reading result' data' v) :
      result = result'.map (fun _ => 0) ∧ after.data = data' ∧
        after.conn.asked = u.asked ++ reading :=
    Collects.of_outcome (.all kind reads) reaches accepted ran
  constructor
  case undescribed => exact fun failed => ended (.undescribed failed)
  case broken => exact fun described gives => ended (.broken described gives)
  case unassigned =>
    intro labels v rows w e described gives unassigned
    obtain ⟨same, left⟩ := ended (.unassigned described gives unassigned)
    exact ⟨same, Data.kind_of_assignRows unassigned, left⟩
  case assigned => exact fun described gives assigned => ended (.assigned described gives assigned)

end Executed

section About

variable {e : Error}

theorem ReadsAll.about_error (foreign : conn.Foreign)
    (reads : ReadsAll conn sql h data state asked (.error e) data' t) :
    e.kind = .dataShape ∨ e.kind = .driver ∧ e.AboutSql sql := by
  cases reads with
  | undescribed failed => exact .inr (Fault.about_wrapFault (foreign.describe failed))
  | broken _ gives => exact .inr (Fault.about_wrapFault (foreign.gives gives))
  | unassigned _ _ failed => exact .inl (Data.kind_of_assignRows failed)

theorem ReadsOne.about_error {placement : Placement} {required : Bool} (foreign : conn.Foreign)
    (reads : ReadsOne conn placement required sql h data state asked (.error e) data' t) :
    e.kind = .dataShape ∨ e.AboutSql sql := by
  generalize failed : (Except.error e : Except Error Unit) = result at reads
  cases reads with
  | broken faulty =>
    cases failed
    exact .inr (Fault.about_wrapFault (foreign.fetch faulty)).2
  | empty _ =>
    cases required <;> cases failed
    exact .inr rfl
  | unmerged _ rejected =>
    cases failed
    exact .inl (Placement.kind_of_mergeRow rejected)
  | unended _ _ faulty =>
    cases failed
    exact .inr (Fault.about_wrapFault (foreign.fetch faulty)).2
  | single _ _ _ => cases failed
  | several _ _ _ =>
    cases failed
    exact .inr rfl

theorem Collects.about_error {affected : Option Int} (foreign : conn.Foreign)
    (collects : s.Collects conn sql h affected data state asked (.error e) data' t) :
    e.kind = .dataShape ∨ (s.kind = .zeroOrMore → e.kind = .driver) ∧ e.AboutSql sql := by
  obtain ⟨-, reads⟩ | ⟨required, kind, reads⟩ := collects.of_error
  · exact (reads.about_error foreign).imp_right fun about => ⟨fun _ => about.1, about.2⟩
  · refine (reads.about_error foreign).imp_right fun about => ⟨fun many => ?_, about⟩
    cases required <;> simp [kind] at many

theorem Unready.kind_of_error (foreign : conn.Foreign)
    (unready : s.Unready conn data state asked e t) : e.kind = .resolution ∨ e.kind = .driver := by
  cases unready with
  | textless _ failed =>
    obtain ⟨key, _, _, -, -, unresolved⟩ := textFor_eq_error_iff.mp failed
    exact .inl (Placement.names_of_resolveText unresolved).kind
  | refused _ _ refused => exact .inr (Fault.about_wrapFault (foreign.prepare refused)).1

theorem Course.of_cardinality (foreign : conn.Foreign)
    (course : s.Course conn data state asked (.error e) data' t)
    (counts : .cardinality ∈ e.kind.lineage) :
    s.kind ≠ .zeroOrMore ∧ ∃ preparing sql h values t affected u,
      s.Reaches conn data state preparing sql h values t ∧
      conn.execute h values t = .ok affected u ∧ e.AboutSql sql := by
  -- No other kind of error that a run raises counts rows.
  have other (kind : e.kind = .resolution ∨ e.kind = .driver ∨ e.kind = .dataShape) : False := by
    rcases kind with kind | kind | kind <;> simp [kind, ErrorKind.lineage] at counts
  cases course with
  | unready unready =>
    exact (other ((unready.kind_of_error foreign).imp_right .inl)).elim
  | unbound _ unbound =>
    obtain ⟨key, _, _, -, -, unresolved⟩ := mapM_eq_error_iff.mp unbound
    exact (other (.inl (Placement.names_of_resolve unresolved).kind)).elim
  | rejected _ rejected =>
    exact (other (.inr (.inl (Fault.about_wrapFault (foreign.execute rejected)).1))).elim
  | executed reaches accepted collects =>
    obtain ⟨one, about⟩ := (collects.about_error foreign).resolve_left fun kind =>
      other (.inr (.inr kind))
    exact ⟨fun many => other (.inr (.inl (one many))),
      _, _, _, _, _, _, _, reaches, accepted, about⟩

theorem Course.of_driver {preparing : List Asked} (foreign : conn.Foreign)
    (course : s.Course conn data state asked (.error e) data' t) (driver : e.kind = .driver)
    {values : List Value} (reaches : s.Reaches conn data state preparing sql h values u) :
    e.AboutSql sql := by
  cases course with
  | unready unready => exact (unready.not_ready reaches.ready).elim
  | unbound _ unbound => cases reaches.bound.symm.trans unbound
  | rejected reached rejected =>
    obtain rfl := reached.ready.sql_unique reaches.ready
    exact (Fault.about_wrapFault (foreign.execute rejected)).2
  | executed reached _ collects =>
    obtain rfl := reached.ready.sql_unique reaches.ready
    exact ((collects.about_error foreign).resolve_left (by simp [driver])).2

end About

/-- The number of rows decides what comes of a result, and errors say which text was executed. -/
theorem execute_counts {style : Option MarkerStyle} {placement : Placement} {source : String}
    {first made : Recorded σ} {stage after : Stage (Recorded σ)} {result : Except Error Nat}
    (foreign : conn.Foreign)
    (created : create conn.recorded style placement source first = .ok s made)
    (ran : (s.execute conn.recorded).outcome stage = (result, after)) :
    (∀ preparing sql h values t affected u,
      s.Reaches conn.recorded stage.data stage.conn preparing sql h values t →
      conn.recorded.execute h values t = .ok affected u →
      (s.kind = .zeroOrOne ∨ s.kind = .exactlyOne →
        TakesOne conn.recorded s sql h stage.data u result after) ∧
      (s.kind = .zeroOrMore → TakesAll conn.recorded sql h stage.data u result after)) ∧
    (∀ e, result = .error e → .cardinality ∈ e.kind.lineage →
      s.kind ≠ .zeroOrMore ∧ ∃ preparing sql h values t affected u,
        s.Reaches conn.recorded stage.data stage.conn preparing sql h values t ∧
        conn.recorded.execute h values t = .ok affected u ∧
        s.Prepared conn.recorded first stage.conn sql h preparing t ∧ e.AboutSql sql) ∧
    ∀ preparing sql h values t e,
      s.Reaches conn.recorded stage.data stage.conn preparing sql h values t →
      result = .error e → e.kind = .driver →
      s.Prepared conn.recorded first stage.conn sql h preparing t ∧ e.AboutSql sql := by
  obtain ⟨body, m⟩ := exists_made created
  obtain ⟨asked, course⟩ := course_of_outcome ran
  refine ⟨?_, ?_, ?_⟩
  · intro preparing sql h values t affected u reaches accepted
    exact ⟨fun kind => takesOne kind reaches accepted ran,
      fun kind => takesAll kind reaches accepted ran⟩
  · rintro e rfl counts
    obtain ⟨kind, preparing, sql, h, values, t, affected, u, reaches, accepted, about⟩ :=
      course.of_cardinality foreign.recorded counts
    exact ⟨kind, preparing, sql, h, values, t, affected, u, reaches, accepted,
      m.prepared reaches.ready, about⟩
  · rintro preparing sql h values t e reaches rfl driver
    exact ⟨m.prepared reaches.ready, course.of_driver foreign.recorded driver reaches⟩

theorem create_counted :
    create countdown.recorded (some .question) .plain counted.source ⟨0, []⟩ =
      .ok counted ⟨0, [.prepare counted.sql 0]⟩ := by
  have drafted : draft .question .plain counted.source = .ok { counted with handle := none } := by
    decide +kernel
  rw [create_eq, Option.getD_some, drafted]
  rfl

theorem foreign_countdown : countdown.Foreign where
  prepare := nofun
  execute := nofun
  describe := nofun
  fetch := by
    intro h s f t failed
    cases s <;> cases failed

theorem execute_counts_counted :
    let h : Handle := ⟨0, counted.sql⟩
    let stage : Stage (Recorded Nat) := ⟨⟨⟨2, []⟩, []⟩, []⟩
    countdown.Foreign ∧
    create countdown.recorded (some .question) .plain counted.source ⟨0, []⟩ =
      .ok counted ⟨0, [.prepare counted.sql 0]⟩ ∧
    ∃ result after, (counted.execute countdown.recorded).outcome stage = (result, after) ∧
      result = .error (.multipleResults (some counted.sql)) ∧ after.data = [("n", .int 1)] ∧
      after.conn.asked = [.execute h [] (.ok none), .fetch h, .fetch h] := by
  intro h stage
  refine ⟨foreign_countdown, create_counted, _, _, rfl, ?_⟩
  have takes := (execute_counts foreign_countdown create_counted
    (rfl : (counted.execute countdown.recorded).outcome stage = (_, _))).1 [] counted.sql h []
    ⟨2, []⟩ none ⟨2, [.execute h [] (.ok none)]⟩ ⟨.held rfl, rfl⟩ rfl
  have gives : countdown.recorded.Gives h ⟨2, [.execute h [] (.ok none)]⟩
      [[("n", .int 1)], [("n", .int 0)]] none _ := .row rfl (.row rfl (.ended rfl))
  exact (takes.1 (.inr rfl)).several gives rfl

end Statement

end QueryBook
