import QueryBook.Proofs.Courses
import QueryBook.Proofs.Cuts
import QueryBook.Script.Basic

set_option autoImplicit false

namespace QueryBook

open QueryBook.Action Connection

theorem Placement.resolveText_eq_ok_iff {placement : Placement} {data : Fields}
    {key text : String} :
    placement.resolveText data key = .ok text ↔
      ∃ v, placement.resolve data key = .ok v ∧ v ≠ .null ∧ v.display = text := by
  unfold resolveText
  cases placement.resolve data key with
  | error e => simp
  | ok v => cases v <;> simp [Value.shape]

namespace MarkedText

theorem needsSubstitution_iff (t : MarkedText) :
    t.needsSubstitution = true ↔ t.directNames ≠ [] := by
  simp [needsSubstitution, directNames]

theorem fill_of_plain {t : MarkedText} (plain : t.directNames = []) : t.fill [] = t.sql := by
  have empty : t.tail = [] := by simpa [directNames] using plain
  simp [fill, sql, empty]

end MarkedText

namespace Statement

variable {σ : Type} {conn : Connection σ} {style : Option MarkerStyle} {placement : Placement}
  {source body : String} {s : Statement} {first made state t : σ} {data : Fields}
  {asked : List Asked} {sql : String} {h : Handle}

structure Made (conn : Connection σ) (style : Option MarkerStyle) (placement : Placement)
    (source body : String) (first : σ) (s : Statement) (made : σ) : Prop where
  classified : StatementKind.classify source = .ok (s.kind, body)
  marked : s.marked = .ofText (style.getD conn.style) body
  placement : s.placement = placement
  held : ∀ h, s.handle = some h → s.marked.directNames = [] ∧
    conn.prepare s.sql s.marked.bindNames.length first = .ok h made

theorem exists_made (created : create conn style placement source first = .ok s made) :
    ∃ body, Made conn style placement source body first s made := by
  have ends : Ends (create conn style placement source) first
      (fun s made => ∃ body, Made conn style placement source body first s made)
      (fun _ _ => True) := by
    unfold create
    simp only [ends_bind, ends_ofExcept]
    cases classified : StatementKind.classify source with
    | error e => trivial
    | ok found =>
      obtain ⟨kind, body⟩ := found
      simp only
      split
      · exact ⟨body, classified, rfl, rfl, fun _ held => by cases held⟩
      next plain =>
        have plain : (MarkedText.ofText (style.getD conn.style) body).directNames = [] := by
          simpa [MarkedText.needsSubstitution_iff] using plain
        simp only [prepareText, ends_bind, ends_request, ends_pure]
        apply (ends_self _ first).imp
        · intro h t accepted
          refine ⟨body, classified, rfl, rfl, fun h' same => ?_⟩
          cases same
          exact ⟨plain, accepted⟩
        · exact fun _ _ _ => trivial
  exact ends.of_ok created

-- The connection has answered with the handle when it was asked to prepare the text: as the
-- statement was made, when the text takes nothing from the data, and for the run otherwise.
inductive Prepared (conn : Connection σ) (s : Statement) (first state : σ) (sql : String)
    (h : Handle) : List Asked → σ → Prop where
  | whenMade {made : σ} (plain : s.marked.directNames = [])
      (accepted : conn.prepare sql s.marked.bindNames.length first = .ok h made) :
    Prepared conn s first state sql h [] state
  | forRun {t : σ} (accepted : conn.prepare sql s.marked.bindNames.length state = .ok h t) :
    Prepared conn s first state sql h [.prepare sql s.marked.bindNames.length] t

theorem Made.prepared (m : Made conn style placement source body first s made)
    (ready : s.Readies conn data state asked sql h t) :
    s.Prepared conn first state sql h asked t := by
  cases ready with
  | held held =>
    obtain ⟨plain, accepted⟩ := m.held _ held
    exact .whenMade plain accepted
  | prepared _ _ accepted => exact .forRun accepted

theorem Made.exists_texts (m : Made conn style placement source body first s made)
    (ready : s.Readies conn data state asked sql h t) :
    ∃ texts, List.Forall₂ (fun key text => s.placement.resolveText data key = .ok text)
      s.marked.directNames texts ∧ s.marked.fill texts = sql := by
  cases ready with
  | held held =>
    have plain := (m.held _ held).1
    exact ⟨[], by rw [plain]; exact .nil, MarkedText.fill_of_plain plain⟩
  | prepared _ filled _ => exact textFor_eq_ok_iff.mp filled

theorem Made.textFor_eq (m : Made conn style placement source body first s made)
    (ready : s.Readies conn data state asked sql h t) : s.textFor data = .ok sql :=
  textFor_eq_ok_iff.mpr (m.exists_texts ready)

-- What reaches the connection when a statement is executed: which text the handle stands for, and
-- what the values are that its markers take.
structure Sends (conn : Connection σ) (s : Statement) (body : String) (data : Fields)
    (first state : σ) (preparing : List Asked) (texts : List String) (sql : String) (h : Handle)
    (values : List Value) (t : σ) : Prop where
  prepared : s.Prepared conn first state sql h preparing t
  rendered : s.marked.render texts = .ok sql
  spliced : List.Forall₂ (fun key text => ∃ v, s.placement.resolve data key = .ok v ∧ v ≠ .null ∧
    v.display = text) s.marked.directNames texts
  count : values.length = (Cut.ofText body).bindNames.length
  -- One marker for every value.
  markers : sql.toList = (Cut.ofText body).fill s.marked.style.escape
    (s.marked.style.markers 1 values.length)
    (texts.map fun text => s.marked.style.escape text.toList)
  bound : List.Forall₂ (fun key v => s.placement.resolve data key = .ok v ∧
    v.isParameter = true) s.marked.bindNames values

theorem Made.sends (m : Made conn style placement source body first s made) {values : List Value}
    (reaches : s.Reaches conn data state asked sql h values t) :
    ∃ texts, s.Sends conn body data first state asked texts sql h values t := by
  obtain ⟨texts, resolved, filled⟩ := m.exists_texts reaches.ready
  have bound := mapM_eq_ok_iff.mp reaches.bound
  have enough : texts.length = s.marked.directNames.length := resolved.length_eq.symm
  have rendered : s.marked.render texts = .ok sql :=
    (MarkedText.render_eq_ok_iff ..).mpr ⟨enough, filled.symm⟩
  have count : values.length = (Cut.ofText body).bindNames.length := by
    rw [← bound.length_eq, m.marked, MarkedText.bindNames_ofText]
  refine ⟨texts, m.prepared reaches.ready, rendered, ?_, count, ?_, ?_⟩
  · exact resolved.imp fun _ _ => Placement.resolveText_eq_ok_iff.mp
  · rw [m.marked, MarkedText.directNames_ofText] at enough
    rw [m.marked, MarkedText.render_ofText _ _ enough, Except.ok.injEq] at rendered
    rw [m.marked, count, ← rendered, String.toList_ofList]
    rfl
  · exact bound.imp fun _ _ value => ⟨value, Placement.isParameter_of_resolve value⟩

def Refused (conn : Connection σ) (s : Statement) (data : Fields) (state : σ) (asked : List Asked)
    (result : Except Error Nat) : Prop :=
  ∃ sql f t, s.textFor data = .ok sql ∧
    conn.prepare sql s.marked.bindNames.length state = .error f t ∧
    asked = [.prepare sql s.marked.bindNames.length] ∧ result = .error (.wrapFault (some sql) f)

theorem Readies.isPrepare (ready : s.Readies conn data state asked sql h t) :
    ∀ q ∈ asked, q.isPrepare = true := by
  cases ready <;> simp [Asked.isPrepare]

theorem ReadsAll.isRead {data' : Fields} {result : Except Error Unit}
    (reads : ReadsAll conn sql h data state asked result data' t) :
    ∀ q ∈ asked, q.isRead = true := by
  cases reads <;> simp [Asked.isRead]

theorem ReadsOne.isRead {required : Bool} {data' : Fields} {result : Except Error Unit}
    (reads : ReadsOne conn placement required sql h data state asked result data' t) :
    ∀ q ∈ asked, q.isRead = true := by
  cases reads <;> simp [Asked.isRead]

theorem Collects.isRead {affected : Option Int} {data' : Fields} {result : Except Error Nat}
    (collects : s.Collects conn sql h affected data state asked result data' t) :
    ∀ q ∈ asked, q.isRead = true := by
  cases collects with
  | mutation _ => simp
  | all _ reads => exact reads.isRead
  | one _ _ reads => exact reads.isRead

section Course

variable {data' : Fields} {result : Except Error Nat}

theorem Course.executes_once (course : s.Course conn data state asked result data' t)
    {values : List Value} {answer : Except Fault (Option Int)}
    (member : .execute h values answer ∈ asked) :
    ∃ preparing reading sql t, asked = preparing ++ .execute h values answer :: reading ∧
      (∀ q ∈ preparing, q.isPrepare = true) ∧ (∀ q ∈ reading, q.isRead = true) ∧
      s.Reaches conn data state preparing sql h values t := by
  have only {preparing reading : List Asked} {h' : Handle} {values' : List Value}
      {answer' : Except Fault (Option Int)} (prepares : ∀ q ∈ preparing, q.isPrepare = true)
      (reads : ∀ q ∈ reading, q.isRead = true)
      (member : .execute h values answer ∈
        preparing ++ .execute h' values' answer' :: reading) :
      h = h' ∧ values = values' ∧ answer = answer' := by
    rcases List.mem_append.mp member with member | member
    · cases prepares _ member
    · cases member with
      | head => exact ⟨rfl, rfl, rfl⟩
      | tail _ member => cases reads _ member
  cases course with
  | unready unready => cases unready <;> simp at member
  | unbound ready _ => cases ready.isPrepare _ member
  | rejected reaches _ =>
    have prepares := reaches.ready.isPrepare
    obtain ⟨rfl, rfl, rfl⟩ := only prepares (by simp) member
    exact ⟨_, [], _, _, rfl, prepares, by simp, reaches⟩
  | executed reaches _ collects =>
    have prepares := reaches.ready.isPrepare
    obtain ⟨rfl, rfl, rfl⟩ := only prepares collects.isRead member
    exact ⟨_, _, _, _, rfl, prepares, collects.isRead, reaches⟩

theorem Course.of_direct (m : Made conn style placement source body first s made)
    (course : s.Course conn data state asked result data' t) {e : Error}
    (unfilled : s.textFor data = .error e) : asked = [] ∧ result = .error e := by
  have never {asked : List Asked} {sql : String} {h : Handle} {t : σ}
      (ready : s.Readies conn data state asked sql h t) : False := by
    cases unfilled.symm.trans (m.textFor_eq ready)
  cases course with
  | unready unready =>
    cases unready with
    | textless _ failed =>
      cases unfilled.symm.trans failed
      exact ⟨rfl, rfl⟩
    | refused _ filled _ => cases unfilled.symm.trans filled
  | unbound ready _ => exact (never ready).elim
  | rejected reaches _ => exact (never reaches.ready).elim
  | executed reaches _ _ => exact (never reaches.ready).elim

theorem Course.of_bind (course : s.Course conn data state asked result data' t)
    (filled : s.textFor data = .ok sql) {e : Error} (unbound : s.parameters data = .error e) :
    (∀ q ∈ asked, q.isPrepare = true) ∧
      (result = .error e ∨ s.Refused conn data state asked result) := by
  cases course with
  | unready unready =>
    cases unready with
    | textless _ failed => cases filled.symm.trans failed
    | refused _ filled refused =>
      exact ⟨by simp [Asked.isPrepare], .inr ⟨_, _, _, filled, refused, rfl, rfl⟩⟩
  | unbound ready failed =>
    cases unbound.symm.trans failed
    exact ⟨ready.isPrepare, .inl rfl⟩
  | rejected reaches _ => cases unbound.symm.trans reaches.bound
  | executed reaches _ _ => cases unbound.symm.trans reaches.bound

theorem Course.of_bound (course : s.Course conn data state asked result data' t)
    (filled : s.textFor data = .ok sql) {values : List Value}
    (bound : s.parameters data = .ok values) :
    (∃ h answer, .execute h values answer ∈ asked) ∨ s.Refused conn data state asked result := by
  cases course with
  | unready unready =>
    cases unready with
    | textless _ failed => cases filled.symm.trans failed
    | refused _ filled refused => exact .inr ⟨_, _, _, filled, refused, rfl, rfl⟩
  | unbound _ failed => cases bound.symm.trans failed
  | rejected reaches _ =>
    cases bound.symm.trans reaches.bound
    exact .inl ⟨_, _, List.mem_append_right _ (List.mem_cons_self ..)⟩
  | executed reaches _ _ =>
    cases bound.symm.trans reaches.bound
    exact .inl ⟨_, _, List.mem_append_right _ (List.mem_cons_self ..)⟩

end Course

structure Resolves (s : Statement) (data : Fields) : Prop where
  directs : ∀ key ∈ s.marked.directNames, ∃ text, s.placement.resolveText data key = .ok text
  binds : ∀ key ∈ s.marked.bindNames, ∃ v, s.placement.resolve data key = .ok v

/-- What is executed has the texts of the directs in it and a value for each of its markers. The first
name without a value is the one that is reported. -/
theorem execute_sends {stage after : Stage (Recorded σ)} {first made : Recorded σ}
    {result : Except Error Nat}
    (created : create conn.recorded style placement source first = .ok s made)
    (ran : (s.execute conn.recorded).outcome stage = (result, after)) :
    ∃ body asked, Made conn.recorded style placement source body first s made ∧
      after.conn.asked = stage.conn.asked ++ asked ∧
      (∀ h values answer, .execute h values answer ∈ asked →
        ∃ preparing reading texts sql t,
          asked = preparing ++ .execute h values answer :: reading ∧
          (∀ q ∈ preparing, q.isPrepare = true) ∧ (∀ q ∈ reading, q.isRead = true) ∧
          s.Sends conn.recorded body stage.data first stage.conn preparing texts sql h values t) ∧
      (∀ key e, FirstFails (placement.resolveText stage.data) s.marked.directNames key e →
        asked = [] ∧ result = .error e ∧ e.Names key) ∧
      (∀ key e, (∀ name ∈ s.marked.directNames, ∃ text,
          placement.resolveText stage.data name = .ok text) →
        FirstFails (placement.resolve stage.data) s.marked.bindNames key e →
        (∀ q ∈ asked, q.isPrepare = true) ∧ (result = .error e ∧ e.Names key ∨
          s.Refused conn.recorded stage.data stage.conn asked result)) ∧
      (s.Resolves stage.data → (∃ h values answer, .execute h values answer ∈ asked) ∨
        s.Refused conn.recorded stage.data stage.conn asked result) := by
  obtain ⟨body, m⟩ := exists_made created
  obtain ⟨asked, course⟩ := course_of_outcome ran
  obtain rfl := m.placement
  refine ⟨body, asked, m, course.asked_eq, ?_, ?_, ?_, ?_⟩
  · intro h values answer member
    obtain ⟨preparing, reading, sql, t, split, prepares, reads, reaches⟩ :=
      course.executes_once member
    obtain ⟨texts, sends⟩ := m.sends reaches
    exact ⟨preparing, reading, texts, sql, t, split, prepares, reads, sends⟩
  · intro key e fails
    obtain ⟨silent, raised⟩ := course.of_direct m (textFor_eq_error_iff.mpr ⟨key, fails⟩)
    obtain ⟨_, _, -, -, unresolved⟩ := fails
    exact ⟨silent, raised, Placement.names_of_resolveText unresolved⟩
  · intro key e directs fails
    obtain ⟨sql, filled⟩ := exists_textFor_iff.mpr directs
    obtain ⟨prepares, raised⟩ := course.of_bind filled (mapM_eq_error_iff.mpr ⟨key, fails⟩)
    obtain ⟨_, _, -, -, unresolved⟩ := fails
    exact ⟨prepares, raised.imp_left fun raised => ⟨raised, Placement.names_of_resolve unresolved⟩⟩
  · intro resolves
    obtain ⟨sql, filled⟩ := exists_textFor_iff.mpr resolves.directs
    obtain ⟨values, bound⟩ := exists_mapM_iff.mpr resolves.binds
    apply (course.of_bound filled bound).imp_left
    rintro ⟨h, answer, member⟩
    exact ⟨h, values, answer, member⟩

-- One name has two places, and the table comes from the data.
def doubled : Statement where
  source := "UPDATE $t SET a = :x WHERE b = :x"
  kind := .mutation
  marked := .ofText .question "UPDATE $t SET a = :x WHERE b = :x"
  placement := .plain
  handle := none

theorem create_doubled (conn : Connection σ) (first : σ) :
    create conn (some .question) .plain doubled.source first = .ok doubled first := by
  have drafted : draft .question .plain doubled.source = .ok doubled := by decide +kernel
  have directs : doubled.marked.needsSubstitution = true := by decide +kernel
  rw [create_eq, Option.getD_some, drafted]
  change (if doubled.marked.needsSubstitution = true then _ else _ : Action σ Statement) first = _
  rw [if_pos directs]
  rfl

theorem names_doubled :
    doubled.marked.directNames = ["t"] ∧ doubled.marked.bindNames = ["x", "x"] ∧
      doubled.marked.render ["u"] = .ok "UPDATE u SET a = ? WHERE b = ?" := by
  decide +kernel

theorem execute_sends_doubled :
    let conn := (Script.connection .question).recorded
    let stage : Stage (Recorded Script.State) :=
      ⟨⟨⟨.ofScript .empty, []⟩, []⟩,
        [("t", .text "u"), ("x", .int 3)]⟩
    create conn (some .question) .plain doubled.source stage.conn = .ok doubled stage.conn ∧
      ∃ result after, (doubled.execute conn).outcome stage = (result, after) ∧
        .prepare "UPDATE u SET a = ? WHERE b = ?" 2 ∈ after.conn.asked ∧
        ∃ h answer, .execute h [.int 3, .int 3] answer ∈ after.conn.asked := by
  intro conn stage
  have created := create_doubled conn stage.conn
  have ran : (doubled.execute conn).outcome stage =
    (((doubled.execute conn).outcome stage).1, ((doubled.execute conn).outcome stage).2) := rfl
  obtain ⟨directs, binds, rendered⟩ := names_doubled
  obtain ⟨body, asked, m, same, sends, -, -, executes⟩ := execute_sends created ran
  refine ⟨created, _, _, ran, ?_⟩
  have resolves : doubled.Resolves stage.data := by
    constructor
    · rw [directs]
      simpa using ⟨"u", rfl⟩
    · rw [binds]
      simpa using ⟨.int 3, rfl⟩
  rcases executes resolves with ⟨h, values, answer, member⟩ | ⟨sql, f, t, -, refused, -⟩
  · obtain ⟨preparing, reading, texts, sql, t, split, -, -, sends⟩ := sends h values answer member
    have taken : values = [.int 3, .int 3] := by
      have bound := mapM_eq_ok_iff.mpr (sends.bound.imp fun _ _ value => value.1)
      rw [binds] at bound
      exact (Except.ok.inj bound).symm
    have spliced : texts = ["u"] := by
      have spliced := mapM_eq_ok_iff.mpr
        (sends.spliced.imp fun _ _ => Placement.resolveText_eq_ok_iff.mpr)
      rw [directs] at spliced
      exact (Except.ok.inj spliced).symm
    have text : sql = "UPDATE u SET a = ? WHERE b = ?" := by
      have rendered' := sends.rendered
      rw [spliced, rendered] at rendered'
      exact (Except.ok.inj rendered').symm
    subst taken text
    rw [same, split]
    refine ⟨?_, h, answer, by simp⟩
    have prepared := sends.prepared
    cases prepared with
    | whenMade plain _ => simp [directs] at plain
    | forRun _ => simp [binds]
  · cases refused

end Statement

end QueryBook
