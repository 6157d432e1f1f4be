import QueryBook.Proofs.Statements

set_option autoImplicit false

namespace QueryBook

open QueryBook.Action Connection

namespace Connection

variable {σ : Type} {conn : Connection σ} {h : Handle}

inductive Gives (conn : Connection σ) (h : Handle) :
    σ → List Fields → Option Fault → σ → Prop where
  | ended {s t : σ} (last : conn.fetch h s = .ok none t) : Gives conn h s [] none t
  | broken {s t : σ} {f : Fault} (failed : conn.fetch h s = .error f t) :
    Gives conn h s [] (some f) t
  | row {s t u : σ} {row : Fields} {rows : List Fields} {fault : Option Fault}
      (found : conn.fetch h s = .ok (some row) t) (rest : Gives conn h t rows fault u) :
    Gives conn h s (row :: rows) fault u

-- By induction on how many rows can still be fetched: every result comes to an end.
theorem exists_gives (conn : Connection σ) (h : Handle) (s : σ) :
    ∃ rows fault t, conn.Gives h s rows fault t := by
  induction left : conn.rowsLeft h s using Nat.strongRecOn generalizing s with
  | ind left ih =>
    cases fetched : conn.fetch h s with
    | error f t => exact ⟨[], some f, t, .broken fetched⟩
    | ok found t =>
      cases found with
      | none => exact ⟨[], none, t, .ended fetched⟩
      | some row =>
        obtain ⟨rows, fault, u, rest⟩ := ih _ (left ▸ conn.rowsLeft_fetch fetched) t rfl
        exact ⟨row :: rows, fault, u, .row fetched rest⟩

theorem Gives.fetchAll {s t : σ} {rows : List Fields} {fault : Option Fault}
    (gives : conn.Gives h s rows fault t) :
    conn.fetchAll h s =
      match fault with
      | none => .ok rows t
      | some f => .error f t := by
  induction gives with
  | ended last => simp only [fetchAll_eq, bind, EStateM.bind, last]; rfl
  | broken failed => simp only [fetchAll_eq, bind, EStateM.bind, failed]
  | @row s t u row rows fault found rest ih =>
    simp only [fetchAll_eq conn h, bind, EStateM.bind, found, Functor.map, EStateM.map, ih]
    cases fault <;> rfl

theorem record_eq_ok_iff {α : Type} {entry : Except Fault α → Asked} {request : Request σ α}
    {s t : Recorded σ} {a : α} :
    record entry request s = .ok a t ↔
      request s.state = .ok a t.state ∧ t.asked = s.asked ++ [entry (.ok a)] := by
  obtain ⟨state, asked⟩ := t
  unfold record
  cases request s.state <;> grind

theorem record_eq_error_iff {α : Type} {entry : Except Fault α → Asked} {request : Request σ α}
    {s t : Recorded σ} {f : Fault} :
    record entry request s = .error f t ↔
      request s.state = .error f t.state ∧ t.asked = s.asked ++ [entry (.error f)] := by
  obtain ⟨state, asked⟩ := t
  unfold record
  cases request s.state <;> grind

-- Every row is asked for once, and the end of the result once more.
theorem Gives.asked_eq {s t : Recorded σ} {rows : List Fields} {fault : Option Fault}
    (gives : conn.recorded.Gives h s rows fault t) :
    t.asked = s.asked ++ List.replicate (rows.length + 1) (.fetch h) := by
  induction gives with
  | ended last =>
    simp only [recorded, record_eq_ok_iff] at last
    exact last.2
  | broken failed =>
    simp only [recorded, record_eq_error_iff] at failed
    exact failed.2
  | row found rest ih =>
    simp only [recorded, record_eq_ok_iff] at found
    rw [ih, found.2, List.append_assoc]
    rfl

end Connection

def Stage.Leaves {σ α : Type} (act : Action (Stage σ) α) (stage : Stage σ)
    (result : Except Error α) (data : Fields) (conn : σ) : Prop :=
  Ends act stage (fun a t => result = .ok a ∧ t.data = data ∧ t.conn = conn)
    (fun e t => result = .error e ∧ t.data = data ∧ t.conn = conn)

theorem Stage.Leaves.map_zero {σ : Type} {act : Action (Stage σ) Unit} {stage : Stage σ}
    {result : Except Error Unit} {data : Fields} {conn : σ}
    (leaves : Leaves act stage result data conn) :
    Leaves (act >>= fun _ => pure 0) stage (result.map fun _ => 0) data conn := by
  simp only [Leaves, ends_bind, ends_pure]
  apply Ends.imp leaves
  · rintro _ t ⟨rfl, left⟩
    exact ⟨rfl, left⟩
  · rintro e t ⟨rfl, left⟩
    exact ⟨rfl, left⟩

theorem Stage.Leaves.of_outcome {σ α : Type} {act : Action (Stage σ) α} {stage after : Stage σ}
    {result result' : Except Error α} {data : Fields} {conn : σ}
    (leaves : Leaves act stage result data conn) (ran : act.outcome stage = (result', after)) :
    result' = result ∧ after.data = data ∧ after.conn = conn := by
  have both := Ends.and leaves (outcome_eq_iff.mp ran)
  unfold Ends at both
  cases acted : act stage with
  | ok a t =>
    rw [acted] at both
    obtain ⟨⟨rfl, left⟩, rfl, rfl⟩ := both
    exact ⟨rfl, left⟩
  | error e t =>
    rw [acted] at both
    obtain ⟨⟨rfl, left⟩, rfl, rfl⟩ := both
    exact ⟨rfl, left⟩

namespace Statement

variable {σ : Type} {conn : Connection σ} {s : Statement} {data data' : Fields} {state t : σ}
  {sql : String} {h : Handle} {asked : List Asked}

inductive Readies (conn : Connection σ) (s : Statement) (data : Fields) (state : σ) :
    List Asked → String → Handle → σ → Prop where
  | held {h : Handle} (held : s.handle = some h) : Readies conn s data state [] s.sql h state
  | prepared {sql : String} {h : Handle} {t : σ} (unheld : s.handle = none)
      (filled : s.textFor data = .ok sql)
      (accepted : conn.prepare sql s.marked.bindNames.length state = .ok h t) :
    Readies conn s data state [.prepare sql s.marked.bindNames.length] sql h t

inductive Unready (conn : Connection σ) (s : Statement) (data : Fields) (state : σ) :
    List Asked → Error → σ → Prop where
  | textless {e : Error} (unheld : s.handle = none) (failed : s.textFor data = .error e) :
    Unready conn s data state [] e state
  | refused {sql : String} {f : Fault} {t : σ} (unheld : s.handle = none)
      (filled : s.textFor data = .ok sql)
      (refused : conn.prepare sql s.marked.bindNames.length state = .error f t) :
    Unready conn s data state [.prepare sql s.marked.bindNames.length]
      (.wrapFault (some sql) f) t

structure Reaches (conn : Connection σ) (s : Statement) (data : Fields) (state : σ)
    (asked : List Asked) (sql : String) (h : Handle) (values : List Value) (t : σ) : Prop where
  ready : s.Readies conn data state asked sql h t
  bound : s.parameters data = .ok values

inductive ReadsAll (conn : Connection σ) (sql : String) (h : Handle) (data : Fields) (state : σ) :
    List Asked → Except Error Unit → Fields → σ → Prop where
  | undescribed {f : Fault} {t : σ} (failed : conn.describe h state = .error f t) :
    ReadsAll conn sql h data state [.describe h] (.error (.wrapFault (some sql) f)) data t
  | broken {labels : List String} {rows : List Fields} {f : Fault} {t u : σ}
      (described : conn.describe h state = .ok labels t) (gives : conn.Gives h t rows (some f) u) :
    ReadsAll conn sql h data state (.describe h :: List.replicate (rows.length + 1) (.fetch h))
      (.error (.wrapFault (some sql) f)) data u
  | unassigned {labels : List String} {rows : List Fields} {e : Error} {t u : σ}
      (described : conn.describe h state = .ok labels t) (gives : conn.Gives h t rows none u)
      (unassigned : Data.assignRows data labels rows = .error e) :
    ReadsAll conn sql h data state (.describe h :: List.replicate (rows.length + 1) (.fetch h))
      (.error e) data u
  | assigned {labels : List String} {rows : List Fields} {data' : Fields} {t u : σ}
      (described : conn.describe h state = .ok labels t) (gives : conn.Gives h t rows none u)
      (assigned : Data.assignRows data labels rows = .ok data') :
    ReadsAll conn sql h data state (.describe h :: List.replicate (rows.length + 1) (.fetch h))
      (.ok ()) data' u

inductive ReadsOne (conn : Connection σ) (placement : Placement) (required : Bool) (sql : String)
    (h : Handle) (data : Fields) (state : σ) :
    List Asked → Except Error Unit → Fields → σ → Prop where
  | broken {f : Fault} {t : σ} (failed : conn.fetch h state = .error f t) :
    ReadsOne conn placement required sql h data state [.fetch h]
      (.error (.wrapFault (some sql) f)) data t
  | empty {t : σ} (last : conn.fetch h state = .ok none t) :
    ReadsOne conn placement required sql h data state [.fetch h]
      (if required then .error (.noResult (some sql)) else .ok ()) data t
  | unmerged {row : Fields} {e : Error} {data' : Fields} {t : σ}
      (found : conn.fetch h state = .ok (some row) t)
      (unmerged : placement.mergeRow row data = .error e data') :
    ReadsOne conn placement required sql h data state [.fetch h] (.error e) data' t
  | unended {row : Fields} {f : Fault} {data' : Fields} {t u : σ}
      (found : conn.fetch h state = .ok (some row) t)
      (merged : placement.mergeRow row data = .ok () data')
      (failed : conn.fetch h t = .error f u) :
    ReadsOne conn placement required sql h data state [.fetch h, .fetch h]
      (.error (.wrapFault (some sql) f)) data' u
  | single {row : Fields} {data' : Fields} {t u : σ}
      (found : conn.fetch h state = .ok (some row) t)
      (merged : placement.mergeRow row data = .ok () data') (last : conn.fetch h t = .ok none u) :
    ReadsOne conn placement required sql h data state [.fetch h, .fetch h] (.ok ()) data' u
  | several {row second : Fields} {data' : Fields} {t u : σ}
      (found : conn.fetch h state = .ok (some row) t)
      (merged : placement.mergeRow row data = .ok () data')
      (more : conn.fetch h t = .ok (some second) u) :
    ReadsOne conn placement required sql h data state [.fetch h, .fetch h]
      (.error (.multipleResults (some sql))) data' u

inductive Collects (conn : Connection σ) (s : Statement) (sql : String) (h : Handle)
    (affected : Option Int) (data : Fields) (state : σ) :
    List Asked → Except Error Nat → Fields → σ → Prop where
  | mutation (kind : s.kind = .mutation) :
    Collects conn s sql h affected data state [] (.ok (affected.getD 0).toNat) data state
  | all {asked : List Asked} {result : Except Error Unit} {data' : Fields} {t : σ}
      (kind : s.kind = .zeroOrMore) (reads : ReadsAll conn sql h data state asked result data' t) :
    Collects conn s sql h affected data state asked (result.map fun _ => 0) data' t
  | one {asked : List Asked} {result : Except Error Unit} {data' : Fields} {t : σ} (required : Bool)
      (kind : s.kind = if required then .exactlyOne else .zeroOrOne)
      (reads : ReadsOne conn s.placement required sql h data state asked result data' t) :
    Collects conn s sql h affected data state asked (result.map fun _ => 0) data' t

-- The ways that a run of a statement may go: what it asks the connection, what it comes to, and the
-- data and the connection that it leaves.
inductive Course (conn : Connection σ) (s : Statement) (data : Fields) (state : σ) :
    List Asked → Except Error Nat → Fields → σ → Prop where
  | unready {asked : List Asked} {e : Error} {t : σ}
      (unready : s.Unready conn data state asked e t) :
    Course conn s data state asked (.error e) data t
  | unbound {asked : List Asked} {sql : String} {h : Handle} {e : Error} {t : σ}
      (ready : s.Readies conn data state asked sql h t) (failed : s.parameters data = .error e) :
    Course conn s data state asked (.error e) data t
  | rejected {asked : List Asked} {sql : String} {h : Handle} {values : List Value} {f : Fault}
      {t u : σ} (reaches : s.Reaches conn data state asked sql h values t)
      (rejected : conn.execute h values t = .error f u) :
    Course conn s data state (asked ++ [.execute h values (.error f)])
      (.error (.wrapFault (some sql) f)) data u
  | executed {asked reading : List Asked} {sql : String} {h : Handle} {values : List Value}
      {affected : Option Int} {result : Except Error Nat} {data' : Fields} {t u v : σ}
      (reaches : s.Reaches conn data state asked sql h values t)
      (accepted : conn.execute h values t = .ok affected u)
      (collects : s.Collects conn sql h affected data u reading result data' v) :
    Course conn s data state (asked ++ .execute h values (.ok affected) :: reading) result data' v

section Total

variable (conn : Connection σ) (s : Statement) (sql : String) (h : Handle) (data : Fields)
  (state : σ)

theorem exists_ready :
    (∃ asked sql h t, s.Readies conn data state asked sql h t) ∨
      ∃ asked e t, s.Unready conn data state asked e t := by
  cases held : s.handle with
  | some h => exact .inl ⟨_, _, _, _, .held held⟩
  | none =>
    cases filled : s.textFor data with
    | error e => exact .inr ⟨_, _, _, .textless held filled⟩
    | ok sql =>
      cases prepared : conn.prepare sql s.marked.bindNames.length state with
      | ok h t => exact .inl ⟨_, _, _, _, .prepared held filled prepared⟩
      | error f t => exact .inr ⟨_, _, _, .refused held filled prepared⟩

theorem exists_readsAll :
    ∃ asked result data' t, ReadsAll conn sql h data state asked result data' t := by
  cases described : conn.describe h state with
  | error f t => exact ⟨_, _, _, _, .undescribed described⟩
  | ok labels t =>
    obtain ⟨rows, fault, u, gives⟩ := conn.exists_gives h t
    cases fault with
    | some f => exact ⟨_, _, _, _, .broken described gives⟩
    | none =>
      cases assigned : Data.assignRows data labels rows with
      | error e => exact ⟨_, _, _, _, .unassigned described gives assigned⟩
      | ok data' => exact ⟨_, _, _, _, .assigned described gives assigned⟩

theorem exists_readsOne (placement : Placement) (required : Bool) :
    ∃ asked result data' t,
      ReadsOne conn placement required sql h data state asked result data' t := by
  cases first : conn.fetch h state with
  | error f t => exact ⟨_, _, _, _, .broken first⟩
  | ok found t =>
    cases found with
    | none => exact ⟨_, _, _, _, .empty first⟩
    | some row =>
      cases merged : placement.mergeRow row data with
      | error e data' => exact ⟨_, _, _, _, .unmerged first merged⟩
      | ok _ data' =>
        cases next : conn.fetch h t with
        | error f u => exact ⟨_, _, _, _, .unended first merged next⟩
        | ok found u =>
          cases found with
          | none => exact ⟨_, _, _, _, .single first merged next⟩
          | some second => exact ⟨_, _, _, _, .several first merged next⟩

theorem exists_collects (affected : Option Int) :
    ∃ asked result data' t, s.Collects conn sql h affected data state asked result data' t := by
  have one (required : Bool) (kind : s.kind = if required then .exactlyOne else .zeroOrOne) :
      ∃ asked result data' t,
        s.Collects conn sql h affected data state asked result data' t := by
    obtain ⟨asked, result, data', t, reads⟩ :=
      exists_readsOne conn sql h data state s.placement required
    exact ⟨asked, _, data', t, .one required kind reads⟩
  cases kind : s.kind with
  | mutation => exact ⟨_, _, _, _, .mutation kind⟩
  | zeroOrMore =>
    obtain ⟨asked, result, data', t, reads⟩ := exists_readsAll conn sql h data state
    exact ⟨asked, _, data', t, .all kind reads⟩
  | zeroOrOne => exact one false kind
  | exactlyOne => exact one true kind

theorem exists_course :
    ∃ asked result data' t, s.Course conn data state asked result data' t := by
  obtain ⟨asked, sql, h, t, ready⟩ | ⟨asked, e, t, unready⟩ := exists_ready conn s data state
  · cases bound : s.parameters data with
    | error e => exact ⟨_, _, _, _, .unbound ready bound⟩
    | ok values =>
      cases executed : conn.execute h values t with
      | error f u => exact ⟨_, _, _, _, .rejected ⟨ready, bound⟩ executed⟩
      | ok affected u =>
        obtain ⟨reading, result, data', v, collects⟩ :=
          exists_collects conn s sql h data u affected
        exact ⟨_, _, _, _, .executed ⟨ready, bound⟩ executed collects⟩
  · exact ⟨_, _, _, _, .unready unready⟩

end Total

section Sound

variable {t : σ}

theorem Readies.ends_ready {good : String × Handle → σ → Prop} {bad : Error → σ → Prop}
    (ready : s.Readies conn data state asked sql h t) :
    Ends (s.ready conn data) state good bad ↔ good (sql, h) t := by
  unfold Statement.ready
  cases ready with
  | held held =>
    rw [held]
    exact ends_pure _
  | prepared unheld filled accepted =>
    rw [unheld]
    simp only [prepareText, ends_bind, ends_ofExcept, filled, ends_request, ends_pure]
    rw [ends_of_ok accepted]

theorem Unready.ends_ready {good : String × Handle → σ → Prop} {bad : Error → σ → Prop}
    {e : Error} (unready : s.Unready conn data state asked e t) :
    Ends (s.ready conn data) state good bad ↔ bad e t := by
  unfold Statement.ready
  cases unready with
  | textless unheld failed =>
    rw [unheld]
    simp only [ends_bind, ends_ofExcept, failed]
  | refused unheld filled refused =>
    rw [unheld]
    simp only [prepareText, ends_bind, ends_ofExcept, filled, ends_request, ends_pure]
    rw [ends_of_error refused]

variable {stage : Stage σ}

theorem ReadsAll.leaves {result : Except Error Unit}
    (reads : ReadsAll conn sql h stage.data stage.conn asked result data' t) :
    Stage.Leaves (storeRows conn sql h) stage result data' t := by
  simp only [Stage.Leaves, storeRows, ask, ends_bind, Stage.ends_onLink, Stage.ends_onConn,
    ends_request]
  cases reads with
  | undescribed failed =>
    rw [ends_of_error failed]
    simp
  | broken described gives =>
    rw [ends_of_ok described, ends_of_error gives.fetchAll]
    simp
  | unassigned described gives unassigned =>
    rw [ends_of_ok described, ends_of_ok gives.fetchAll]
    apply (Stage.ends_onData _).mpr
    simp only [Ends, unassigned]
    simp
  | assigned described gives assigned =>
    rw [ends_of_ok described, ends_of_ok gives.fetchAll]
    apply (Stage.ends_onData _).mpr
    simp only [Ends, assigned]
    simp

theorem ReadsOne.leaves {placement : Placement} {required : Bool} {result : Except Error Unit}
    (reads : ReadsOne conn placement required sql h stage.data stage.conn asked result data' t) :
    Stage.Leaves (storeRow conn placement required sql h) stage result data' t := by
  simp only [Stage.Leaves, storeRow, ask, ends_bind, Stage.ends_onLink, Stage.ends_onConn,
    ends_request]
  cases reads with
  | broken failed =>
    rw [ends_of_error failed]
    simp
  | empty last =>
    rw [ends_of_ok last]
    cases required <;> simp
  | unmerged found unmerged =>
    rw [ends_of_ok found]
    simp only [ends_bind, Stage.ends_onData]
    rw [ends_of_error unmerged]
    simp
  | unended found merged failed =>
    rw [ends_of_ok found]
    simp only [ends_bind, Stage.ends_onData]
    rw [ends_of_ok merged]
    simp only [Stage.ends_onLink, Stage.ends_onConn, ends_request]
    rw [ends_of_error failed]
    simp
  | single found merged next | several found merged next =>
    rw [ends_of_ok found]
    simp only [ends_bind, Stage.ends_onData]
    rw [ends_of_ok merged]
    simp only [Stage.ends_onLink, Stage.ends_onConn, ends_request]
    rw [ends_of_ok next]
    simp

theorem Collects.leaves {affected : Option Int} {result : Except Error Nat}
    (collects : s.Collects conn sql h affected stage.data stage.conn asked result data' t) :
    Stage.Leaves (s.collect conn sql h affected) stage result data' t := by
  unfold collect
  cases collects with
  | mutation kind =>
    rw [kind]
    exact ⟨rfl, rfl, rfl⟩
  | all kind reads =>
    rw [kind]
    exact reads.leaves.map_zero
  | one required kind reads =>
    cases required <;> rw [kind] <;> exact reads.leaves.map_zero

theorem Course.leaves {result : Except Error Nat}
    (course : s.Course conn stage.data stage.conn asked result data' t) :
    Stage.Leaves (s.execute conn) stage result data' t := by
  simp only [Stage.Leaves, execute, ends_bind, ends_get, Stage.ends_onLink, Stage.ends_onConn,
    ends_ofExcept, Link.note, ends_modify]
  -- What a case knows of the connection decides the next request of the run.
  cases course with
  | unready unready =>
    rw [unready.ends_ready]
    simp
  | unbound ready failed =>
    rw [ready.ends_ready]
    simp only [failed]
    simp
  | rejected reaches rejected =>
    rw [reaches.ready.ends_ready]
    simp only [reaches.bound, ask, Stage.ends_onLink, Stage.ends_onConn, ends_request]
    rw [ends_of_error rejected]
    simp
  | executed reaches accepted collects =>
    rw [reaches.ready.ends_ready]
    simp only [reaches.bound, ask, Stage.ends_onLink, Stage.ends_onConn, ends_request]
    rw [ends_of_ok accepted]
    exact collects.leaves

theorem course_of_outcome {result : Except Error Nat} {after : Stage σ}
    (ran : (s.execute conn).outcome stage = (result, after)) :
    ∃ asked, s.Course conn stage.data stage.conn asked result after.data after.conn := by
  obtain ⟨asked, result', data', t, course⟩ := exists_course conn s stage.data stage.conn
  obtain ⟨rfl, rfl, rfl⟩ := course.leaves.of_outcome ran
  exact ⟨asked, course⟩

end Sound

section Recorded

variable {first last : Recorded σ} {e : Error}

theorem Readies.asked_eq (ready : s.Readies conn.recorded data first asked sql h last) :
    last.asked = first.asked ++ asked := by
  cases ready with
  | held _ => simp
  | prepared _ _ accepted =>
    simp only [recorded, record_eq_ok_iff] at accepted
    exact accepted.2

theorem Unready.asked_eq (unready : s.Unready conn.recorded data first asked e last) :
    last.asked = first.asked ++ asked := by
  cases unready with
  | textless _ _ => simp
  | refused _ _ refused =>
    simp only [recorded, record_eq_error_iff] at refused
    exact refused.2

theorem ReadsAll.asked_eq {result : Except Error Unit}
    (reads : ReadsAll conn.recorded sql h data first asked result data' last) :
    last.asked = first.asked ++ asked := by
  cases reads with
  | undescribed failed =>
    simp only [recorded, record_eq_error_iff] at failed
    exact failed.2
  | broken described gives | unassigned described gives _ | assigned described gives _ =>
    simp only [recorded, record_eq_ok_iff] at described
    rw [gives.asked_eq, described.2, List.append_assoc]
    rfl

theorem ReadsOne.asked_eq {placement : Placement} {required : Bool} {result : Except Error Unit}
    (reads : ReadsOne conn.recorded placement required sql h data first asked result data' last) :
    last.asked = first.asked ++ asked := by
  cases reads with
  | broken failed =>
    simp only [recorded, record_eq_error_iff] at failed
    exact failed.2
  | empty found | unmerged found _ =>
    simp only [recorded, record_eq_ok_iff] at found
    exact found.2
  | unended found _ failed =>
    simp only [recorded, record_eq_ok_iff, record_eq_error_iff] at found failed
    rw [failed.2, found.2, List.append_assoc]
    rfl
  | single found _ next | several found _ next =>
    simp only [recorded, record_eq_ok_iff] at found next
    rw [next.2, found.2, List.append_assoc]
    rfl

theorem Collects.asked_eq {affected : Option Int} {result : Except Error Nat}
    (collects : s.Collects conn.recorded sql h affected data first asked result data' last) :
    last.asked = first.asked ++ asked := by
  cases collects with
  | mutation _ => simp
  | all _ reads => exact reads.asked_eq
  | one _ _ reads => exact reads.asked_eq

theorem Course.asked_eq {result : Except Error Nat}
    (course : s.Course conn.recorded data first asked result data' last) :
    last.asked = first.asked ++ asked := by
  cases course with
  | unready unready => exact unready.asked_eq
  | unbound ready _ => exact ready.asked_eq
  | rejected reaches rejected =>
    simp only [recorded, record_eq_error_iff] at rejected
    rw [rejected.2, reaches.ready.asked_eq, List.append_assoc]
  | executed reaches accepted collects =>
    simp only [recorded, record_eq_ok_iff] at accepted
    rw [collects.asked_eq, accepted.2, reaches.ready.asked_eq]
    simp

end Recorded

end Statement

end QueryBook
