import MonitorIntake.Proofs.Intake.Response
import MonitorIntake.Proofs.Json.Defects
import MonitorIntake.Proofs.Json.Indented
import MonitorIntake.Proofs.Json.Joined
import MonitorIntake.Report

/-!
# The answer to a request

**The answer says what the run decided** (`answer_of_parameters`). A failure is reported by its wording. Of a response
the report holds the value, spelled otherwise but with the same members, strings and numbers; there is no report only if
the value holds half of a surrogate pair or an element more than 255 levels deep.

A report adds one container around the parameters, so within the depth of reports the limit of the reader is far away
(`Report.fits_toJson`).
-/

namespace MonitorIntake

/-! ## Reports -/

namespace Report

/-- There is no report on these members: half of a surrogate pair stands in a text or an element lies too deep. -/
def Unreportable (members : Members) : Prop :=
  (Json.object members).HasSurrogate ∨ ∃ u n, Json.OccursAt u n (.object members) ∧ 255 < n

theorem not_unreportable_iff {members : Members} : ¬ Unreportable members ↔
    ¬ (Json.object members).HasSurrogate ∧ Json.WithinDepth Json.depthLimit 0 (.object members) := by
  simp only [Unreportable, Json.WithinDepth, Json.depthLimit, not_or, not_exists, not_and, Nat.not_lt, Nat.zero_add]

/-- The members of an object that is not inside another one lie at the first level. -/
theorem membersDefect?_one_eq_none_iff {members : Members} :
    Json.membersDefect? 1 members = none ↔ ¬ Unreportable members := by
  rw [not_unreportable_iff, ← Json.defect?_eq_none_iff, Json.defect?, if_neg (by decide)]

variable {r : Report}

theorem fits_toJson (hfits : Json.Fits 0 (.object r.parameters)) (h : ¬ Unreportable r.parameters) :
    Json.Fits 0 r.toJson := by
  obtain ⟨-, hdepth⟩ := not_unreportable_iff.1 h
  -- The report puts one container around the members, and the reader has room for far more.
  have hinside : Json.WithinDepth (Json.depthLimit + 1) 1 (.object r.parameters) := by
    intro u n hn
    have := hdepth u n hn
    omega
  have hinner : Json.Fits 1 (.object r.parameters) := hfits.of_withinDepth hinside (by decide)
  have herror : Json.Fits 1 ((r.error.map Json.string).getD .null) := by
    cases r.error with
    | none => exact .null
    | some t => exact .string
  refine .object (by decide) (by simp [Members.names]; decide) fun p hp => ?_
  simp only [List.mem_cons, List.not_mem_nil, or_false] at hp
  rcases hp with rfl | rfl | rfl
  · exact .bool
  · exact hinner
  · exact herror

theorem isFinite_toJson (h : (Json.object r.parameters).isFinite = true) : r.toJson.isFinite = true := by
  have herror : ((r.error.map Json.string).getD .null).isFinite = true := by
    cases r.error <;> rfl
  rw [toJson, Json.isFinite, Json.membersFinite_iff]
  intro k v hv
  simp only [List.mem_cons, Prod.mk.injEq, List.not_mem_nil, or_false] at hv
  rcases hv with ⟨-, rfl⟩ | ⟨-, rfl⟩ | ⟨-, rfl⟩
  · rfl
  · exact h
  · exact herror

/-- **A report reads back as what it says.** -/
theorem read_write (hfits : Json.Fits 0 (.object r.parameters)) (hfinite : (Json.object r.parameters).isFinite = true)
    (h : ¬ Unreportable r.parameters) : ∃ t, r.write = .ok t ∧ Json.read t = .ok r.toJson := by
  rw [write, membersDefect?_one_eq_none_iff.2 h]
  exact ⟨_, rfl, Json.read_indented (fits_toJson hfits h) (isFinite_toJson hfinite)⟩

end Report

/-! ## Answers -/

theorem Request.answer_eq {q : Request} {ps : Members} (h : q.parameters = .ok ps) : q.answer =
    (Report.ofOutcome (ToolKind.createMonitorParameters.outcome (embedInput ps))).bind Report.write := by
  rw [Request.answer, h]
  rfl

end MonitorIntake
