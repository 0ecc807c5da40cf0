import MonitorIntake.Proofs.Intake.Acceptance

/-!
# When a run responds

A run reports one response or one failure (`run_activity`). It responds exactly if its input is the text of an object
that names an index and has no number that JSON lacks, and then with the text of that object (`response_mem_iff`).
-/

namespace MonitorIntake

/-- A run reports exactly one event, a response or a failure. -/
theorem run_activity (parameters : Members) :
    (∃ r, (run parameters).activity = [.response r]) ∨ ∃ f, (run parameters).activity = [.failure f] := by
  unfold run
  cases decode parameters with
  | error f => exact .inr ⟨f, rfl⟩
  | ok d => cases hresponse : d.extraction.response <;> simp [hresponse]

theorem Extraction.response_mem_activity {members : Members} {r : Text} :
    .response r ∈ (ofMembers members).activity ↔
      ¬ IndexMissing members ∧ (Json.object members).isFinite = true ∧ r = (Json.object members).write := by
  obtain ⟨hmissing, hnumber, hresponse⟩ := activity_ofMembers members
  by_cases hi : IndexMissing members
  · simp [hmissing hi, hi]
  · by_cases hn : (Json.object members).HasNonFinite
    · simp [hnumber hi hn, hi, Json.isFinite_eq_false_iff.2 hn]
    · have hfinite : (Json.object members).isFinite = true := by
        simpa using fun hf => hn (Json.isFinite_eq_false_iff.1 hf)
      simp [hresponse hi hn, hi, hfinite]

/-- **A run responds with `r` iff its input is an object with an index and finite numbers, and `r` is its text.** -/
theorem response_mem_iff {parameters : Members} {r : Text} : .response r ∈ (run parameters).activity ↔
    ∃ t members, Members.get? inputName parameters = some (.string t) ∧ Json.read t = .ok (.object members) ∧
      ¬ IndexMissing members ∧ (Json.object members).isFinite = true ∧ r = (Json.object members).write := by
  constructor
  · intro h
    have hrun := @run_of_extract parameters
    have hrun' := @run_of_extract_error parameters
    have hstep := extract_step parameters
    generalize extract parameters = x at hstep hrun hrun'
    cases hstep with
    | @object t members hinput hread =>
      rw [hrun rfl] at h
      exact ⟨t, members, hinput, hread, Extraction.response_mem_activity.1 h⟩
    | tooManyDigits _ _ =>
      rw [hrun' rfl] at h
      simp at h
    | empty _ =>
      rw [hrun rfl] at h
      simp [Extraction.activity, Extraction.response, Extraction.empty, Extraction.isOk] at h
  · rintro ⟨t, members, hinput, hread, h⟩
    rw [run_of_extract (extract_of_read hinput hread)]
    exact Extraction.response_mem_activity.2 h

/-- A response is all that a run reports. -/
theorem activity_of_response {parameters : Members} {r : Text} (h : .response r ∈ (run parameters).activity) :
    (run parameters).activity = [.response r] := by
  rcases run_activity parameters with ⟨r', hr'⟩ | ⟨f, hf⟩
  · rw [hr'] at h ⊢
    rw [List.mem_singleton.1 h]
  · rw [hf] at h
    simp at h

/-! ## Outcomes -/

section Outcome

variable {k : ToolKind} {parameters : Members}

theorem outcome_of_response {r : Text} (h : (run parameters).activity = [.response r]) :
    k.outcome parameters = .ok r := by
  rw [ToolKind.outcome, h]
  rfl

theorem outcome_of_failure {f : Failure} (h : (run parameters).activity = [.failure f]) :
    k.outcome parameters = .error (.failed f) := by
  rw [ToolKind.outcome, h]
  rfl

/-- **The outcome is the one event of the run.** -/
theorem outcome_eq_ok_iff {r : Text} : k.outcome parameters = .ok r ↔ .response r ∈ (run parameters).activity := by
  rcases run_activity parameters with ⟨r', hr⟩ | ⟨f, hf⟩
  · rw [outcome_of_response hr, hr]
    simp [eq_comm]
  · rw [outcome_of_failure hf, hf]
    simp

theorem outcome_eq_error_iff {x : RunError Failure} :
    k.outcome parameters = .error x ↔ ∃ f, x = .failed f ∧ .failure f ∈ (run parameters).activity := by
  rcases run_activity parameters with ⟨r, hr⟩ | ⟨f, hf⟩
  · rw [outcome_of_response hr, hr]
    simp
  · rw [outcome_of_failure hf, hf]
    simp [eq_comm]

end Outcome

end MonitorIntake
