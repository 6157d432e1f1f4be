import QueryBook.Proofs.FlatRuns

set_option autoImplicit false

namespace QueryBook

open QueryBook.Action Connection

namespace Statement

variable {σ : Type} {conn : Connection σ}

theorem ends_ready_answers (s : Statement) (data : Fields) (state : Recorded σ) :
    Ends (s.ready conn.recorded data) state (fun _ t => t.answers = state.answers)
      (fun _ _ => True) := by
  unfold ready
  cases s.handle with
  | some h => rfl
  | none =>
    simp only [prepareText, ends_bind, ends_ofExcept, ends_request, ends_pure]
    cases s.textFor data with
    | error e => trivial
    | ok sql =>
      simp only [recorded, ends_record, answers_append]
      exact (ends_self _ _).imp (fun _ _ _ => List.append_nil _) fun _ _ _ => trivial

def answering (conn : Connection σ) (s : Statement) (start : Recorded σ) (data : Fields) :
    Progress conn.recorded s start data where
  Ready _ _ t := t.answers = start.answers
  Reads _ answer t := t.answers = start.answers ++ [answer]
  Left _ _ := True
  ready := ends_ready_answers s data start
  valueless _ _ := trivial
  execute := by
    intro sql h t values ready _
    simp only [recorded, ends_record, answers_append, ready]
    exact (ends_self _ _).imp (fun _ _ _ => rfl) fun _ _ _ _ => trivial
  describe same := ((readsBy_answers conn).describe _ _).imp (fun _ _ later => later.trans same)
    fun _ _ _ _ => trivial
  fetch same := ((readsBy_answers conn).fetch _ _).imp (fun _ _ later => later.trans same)
    fun _ _ _ _ => trivial
  left _ _ := trivial

theorem ends_execute_counted (s : Statement) (stage : Stage (Recorded σ)) :
    Ends (s.execute conn.recorded) stage
      (fun n t => ∃ answer, t.conn.answers = stage.conn.answers ++ [answer] ∧
        (n : Int) = s.kind.share answer)
      (fun _ _ => True) := by
  apply (answering conn s stage.conn stage.data).ends_execute.imp
  · rintro n t ⟨-, _, answer, counted, answered⟩
    exact ⟨answer, answered, counted⟩
  · exact fun _ _ _ => trivial

def total : List String → List (Option Int) → Int
  | text :: texts, answer :: answers =>
    (match StatementKind.classify text with
      | .ok (kind, _) => kind.share answer
      | .error _ => 0) + total texts answers
  | _, _ => 0

theorem classify_of_draft {style : MarkerStyle} {placement : Placement} {source : String}
    {d : Statement} (drafted : draft style placement source = .ok d) :
    ∃ sql, StatementKind.classify source = .ok (d.kind, sql) := by
  unfold draft at drafted
  split at drafted <;> cases drafted
  next kind sql classified => exact ⟨sql, classified⟩

theorem ends_runAll_counted {texts : List String} {statements : List Statement}
    (classified : List.Forall₂
      (fun text st => ∃ sql, StatementKind.classify text = .ok (st.kind, sql)) texts statements)
    (stage : Stage (Recorded σ)) :
    Ends (runAll conn.recorded statements) stage
      (fun n t => ∃ answers, t.conn.answers = stage.conn.answers ++ answers ∧
        answers.length = texts.length ∧ n = total texts answers)
      (fun _ _ => True) := by
  induction classified generalizing stage with
  | nil => exact ⟨[], (List.append_nil _).symm, rfl, rfl⟩
  | @cons text st texts statements kind _ ih =>
    obtain ⟨sql, kind⟩ := kind
    simp only [runAll, ends_bind, ends_pure]
    apply (ends_execute_counted st stage).imp
    · intro n t ended
      obtain ⟨answer, answered, counted⟩ := ended
      apply (ih t).imp
      · intro m u ended
        obtain ⟨answers, rest, sameLength, counted'⟩ := ended
        refine ⟨answer :: answers, ?_, congrArg (· + 1) sameLength, ?_⟩
        · rw [rest, answered, List.append_assoc, List.singleton_append]
        · simp only [total, kind, counted, counted']
      · exact fun _ _ _ => trivial
    · exact fun _ _ _ => trivial

end Statement

end QueryBook
