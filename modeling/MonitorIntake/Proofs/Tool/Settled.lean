import MonitorIntake.Proofs.Intake.Response

/-!
# What an activity is settled to

A host takes the events of a run down one by one, responses in one list and failures in another, until the run ends or
breaks off (`Reports`). **The activity is settled by the failure that breaks it off, else by its first failure, else by
its first response** (`settle_of_events`); without a break the order between responses and failures does not matter.

An activity without a break is an interleaving of its responses with its failures (`Interleaves`), and every other one is
such an interleaving up to its first break (`exists_interleaves`). Each proof below is an induction on that shape.
-/

namespace MonitorIntake

namespace Activity

variable {ε : Type} {typeName : Text} {a b after : Activity ε} {rs : List Text} {fs : List ε} {e : ε}

/-! ## Shapes of activities -/

/-- The activity consists of these responses and these failures, each in this order, and does not break off. -/
inductive Interleaves : List Text → List ε → Activity ε → Prop
  | nil : Interleaves [] [] []
  | response {rs : List Text} {fs : List ε} {a : Activity ε} (t : Text) :
    Interleaves rs fs a → Interleaves (t :: rs) fs (.response t :: a)
  | failure {rs : List Text} {fs : List ε} {a : Activity ε} (e : ε) :
    Interleaves rs fs a → Interleaves rs (e :: fs) (.failure e :: a)

/-- An activity is an interleaving, at least up to its first break. -/
theorem exists_interleaves (a : Activity ε) : (∃ rs fs, Interleaves rs fs a) ∨
    ∃ rs fs before e after, Interleaves rs fs before ∧ a = before ++ .broken e :: after := by
  -- What comes before the first break is kept as an interleaving, so an event in front only extends it.
  induction a with
  | nil => exact .inl ⟨_, _, .nil⟩
  | cons event a ih =>
    cases event with
    | broken e => exact .inr ⟨_, _, [], e, a, .nil, rfl⟩
    | response t =>
      rcases ih with ⟨rs, fs, h⟩ | ⟨rs, fs, before, e, after, h, rfl⟩
      · exact .inl ⟨_, _, h.response t⟩
      · exact .inr ⟨_, _, _, e, after, h.response t, rfl⟩
    | failure e' =>
      rcases ih with ⟨rs, fs, h⟩ | ⟨rs, fs, before, e, after, h, rfl⟩
      · exact .inl ⟨_, _, h.failure e'⟩
      · exact .inr ⟨_, _, _, e, after, h.failure e', rfl⟩

namespace Interleaves

theorem parts (h : Interleaves rs fs a) : a.broken? = none ∧ a.responses = rs ∧ a.failures = fs := by
  induction h with
  | nil => exact ⟨rfl, rfl, rfl⟩
  | response t _ ih => exact ⟨ih.1, congrArg (t :: ·) ih.2.1, ih.2.2⟩
  | failure e _ ih => exact ⟨ih.1, ih.2.1, congrArg (e :: ·) ih.2.2⟩

theorem broken?_append (h : Interleaves rs fs a) (e : ε) (after : Activity ε) :
    broken? (a ++ .broken e :: after) = some e := by
  induction h with
  | nil => rfl
  | response t _ ih => exact ih
  | failure e' _ ih => exact ih

/-- Every event is one of the responses or one of the failures. -/
theorem event_of_mem (h : Interleaves rs fs a) {event : Event ε} (hmem : event ∈ a) :
    (∃ t ∈ rs, event = .response t) ∨ ∃ e ∈ fs, event = .failure e := by
  induction h with
  | nil => cases hmem
  | response t _ ih =>
    rcases List.mem_cons.1 hmem with rfl | hmem
    · exact .inl ⟨t, List.mem_cons_self, rfl⟩
    · exact (ih hmem).imp_left fun ⟨t', ht', heq⟩ => ⟨t', List.mem_cons_of_mem _ ht', heq⟩
  | failure e _ ih =>
    rcases List.mem_cons.1 hmem with rfl | hmem
    · exact .inr ⟨e, List.mem_cons_self, rfl⟩
    · exact (ih hmem).imp_right fun ⟨e', he', heq⟩ => ⟨e', List.mem_cons_of_mem _ he', heq⟩

end Interleaves

/-! ## Taking down events -/

/-- What the two callbacks have been given, in order. -/
structure Reports (ε : Type) where
  responses : List Text
  failures : List ε

namespace Reports

/-- The callbacks have not been called. -/
def empty : Reports ε := ⟨[], []⟩

/-- One event: a callback takes down what it is given, and after a break there is no next event. -/
def record (s : Reports ε) : Event ε → Except ε (Reports ε)
  | .response t => .ok { s with responses := s.responses ++ [t] }
  | .failure e => .ok { s with failures := s.failures ++ [e] }
  | .broken e => .error e

/-- The outcome of a run that has ended with these reports. -/
def outcome (typeName : Text) : Reports ε → Except (RunError ε) Text
  | ⟨_, e :: _⟩ => .error (.failed e)
  | ⟨t :: _, []⟩ => .ok t
  | ⟨[], []⟩ => .error (.silent typeName)

/-- A run without a break adds its responses and its failures to what was taken down before. -/
theorem foldlM_interleaves (h : Interleaves rs fs a) (s : Reports ε) :
    a.foldlM record s = .ok ⟨s.responses ++ rs, s.failures ++ fs⟩ := by
  induction h generalizing s with
  | nil => simp [pure, Except.pure]
  | @response rs fs a t _ ih =>
    calc (Event.response t :: a).foldlM record s
      _ = a.foldlM record ⟨s.responses ++ [t], s.failures⟩ := rfl
      _ = .ok ⟨s.responses ++ t :: rs, s.failures ++ fs⟩ := by rw [ih, List.append_assoc, List.singleton_append]
  | @failure rs fs a e _ ih =>
    calc (Event.failure e :: a).foldlM record s
      _ = a.foldlM record ⟨s.responses, s.failures ++ [e]⟩ := rfl
      _ = .ok ⟨s.responses ++ rs, s.failures ++ e :: fs⟩ := by rw [ih, List.append_assoc, List.singleton_append]

/-- A run that breaks off leaves nothing but the failure that did so. -/
theorem foldlM_broken (h : Interleaves rs fs a) (s : Reports ε) (e : ε) (after : Activity ε) :
    (a ++ .broken e :: after).foldlM record s = .error e := by
  rw [List.foldlM_append, foldlM_interleaves h]
  rfl

end Reports

/-! ## Outcomes -/

theorem settle_of_interleaves (h : Interleaves rs fs a) : a.settle typeName = Reports.outcome typeName ⟨rs, fs⟩ := by
  obtain ⟨hbroken, hresponses, hfailures⟩ := h.parts
  rw [settle, hbroken, hresponses, hfailures]
  cases fs with
  | cons e fs => rfl
  | nil => cases rs <;> rfl

theorem settle_of_broken (h : Interleaves rs fs a) : settle typeName (a ++ .broken e :: after) = .error (.failed e) := by
  rw [settle, h.broken?_append]

/-- **A run is settled to what a host makes of its events one by one.** -/
theorem settle_eq_recorded (typeName : Text) (a : Activity ε) : a.settle typeName =
    ((a.foldlM Reports.record Reports.empty).mapError .failed).bind (Reports.outcome typeName) := by
  rcases exists_interleaves a with ⟨rs, fs, h⟩ | ⟨rs, fs, before, e, after, h, rfl⟩
  · rw [settle_of_interleaves h, Reports.foldlM_interleaves h]
    rfl
  · rw [settle_of_broken h, Reports.foldlM_broken h]
    rfl

/-- The ways to settle an activity. -/
inductive Settles (typeName : Text) : Activity ε → Except (RunError ε) Text → Prop
  /-- The first break decides, whatever was reported before it. -/
  | broken {rs : List Text} {fs : List ε} {before after : Activity ε} {e : ε} : Interleaves rs fs before →
    Settles typeName (before ++ .broken e :: after) (.error (.failed e))
  /-- The first failure decides, also when responses came before it. -/
  | failed {rs : List Text} {fs : List ε} {a : Activity ε} {e : ε} : Interleaves rs (e :: fs) a →
    Settles typeName a (.error (.failed e))
  | response {rs : List Text} {a : Activity ε} {t : Text} : Interleaves (t :: rs) [] a → Settles typeName a (.ok t)
  | silent {a : Activity ε} : Interleaves [] [] a → Settles typeName a (.error (.silent typeName))

/-- **An activity is settled in exactly one of these ways.** -/
theorem settle_eq_iff {x : Except (RunError ε) Text} : a.settle typeName = x ↔ Settles typeName a x := by
  constructor
  · rintro rfl
    rcases exists_interleaves a with ⟨rs, fs, h⟩ | ⟨rs, fs, before, e, after, h, rfl⟩
    · rw [settle_of_interleaves h]
      match rs, fs, h with
      | rs, e :: fs, h => exact .failed h
      | t :: rs, [], h => exact .response h
      | [], [], h => exact .silent h
    · rw [settle_of_broken h]
      exact .broken h
  · intro h
    cases h with
    | broken h => exact settle_of_broken h
    | failed h | response h | silent h => exact settle_of_interleaves h

/-- A response is the outcome only of an activity of responses alone. -/
theorem response_of_settle {t : Text} (h : a.settle typeName = .ok t) {event : Event ε} (hmem : event ∈ a) :
    ∃ t', event = .response t' := by
  cases settle_eq_iff.1 h with
  | response h =>
    rcases h.event_of_mem hmem with ⟨t', -, heq⟩ | ⟨e, he, -⟩
    · exact ⟨t', heq⟩
    · cases he

end Activity

/-! ## Events of any run -/

/-- **The events of a run have one outcome**: it is what a host makes of them one by one, and is decided by the first
break, else by the first failure, else by the first response; a run without events is reported with the type of its
tool. Runs that interleave the same responses with the same failures have the same outcome, and a response is returned
only if nothing else was reported. The outcome of the tool is the one event of its run. -/
theorem settle_of_events {ε : Type} (typeName : Text) (a : Activity ε) :
    a.settle typeName = ((a.foldlM Activity.Reports.record Activity.Reports.empty).mapError .failed).bind
      (Activity.Reports.outcome typeName) ∧
    (∀ x, a.settle typeName = x ↔ Activity.Settles typeName a x) ∧
    typeName <:+: RunError.silentMessage typeName ∧
    (∀ rs fs b, Activity.Interleaves rs fs a → Activity.Interleaves rs fs b → b.settle typeName = a.settle typeName) ∧
    (∀ t, a.settle typeName = .ok t → ∀ event ∈ a, ∃ t', event = .response t') ∧
    ∀ (k : ToolKind) (parameters : Members),
      (∀ r, k.outcome parameters = .ok r ↔ .response r ∈ (run parameters).activity) ∧
      ∀ x, k.outcome parameters = .error x ↔ ∃ f, x = .failed f ∧ .failure f ∈ (run parameters).activity := by
  refine ⟨Activity.settle_eq_recorded typeName a, fun x => Activity.settle_eq_iff, ?_, ?_, ?_, ?_⟩
  · exact ⟨_, _, rfl⟩
  · intro rs fs b ha hb
    rw [Activity.settle_of_interleaves ha, Activity.settle_of_interleaves hb]
  · intro t h event hmem
    exact Activity.response_of_settle h hmem
  · intro k parameters
    exact ⟨fun r => outcome_eq_ok_iff, fun x => outcome_eq_error_iff⟩

/-- Responses around two failures: the first failure decides, and so it does when all responses come first. A break after
them decides instead. -/
theorem settle_of_mixed_events : ∃ (typeName : Text) (a b c : Activity Nat),
    a = [.response "one".toText, .failure 1, .response "two".toText, .failure 2] ∧
      b = [.response "one".toText, .response "two".toText, .failure 1, .failure 2] ∧
      c = b ++ [.broken 3, .failure 4] ∧
      a.settle typeName = .error (.failed 1) ∧ b.settle typeName = .error (.failed 1) ∧
      c.settle typeName = .error (.failed 3) := by
  obtain ⟨a, ha⟩ : ∃ a : Activity Nat,
    a = [.response "one".toText, .failure 1, .response "two".toText, .failure 2] := ⟨_, rfl⟩
  obtain ⟨b, hb⟩ : ∃ b : Activity Nat,
    b = [.response "one".toText, .response "two".toText, .failure 1, .failure 2] := ⟨_, rfl⟩
  have hinterleaves : Activity.Interleaves ["one".toText, "two".toText] [1, 2] a := by
    rw [ha]
    exact .response _ (.failure _ (.response _ (.failure _ .nil)))
  have hinterleaves' : Activity.Interleaves ["one".toText, "two".toText] [1, 2] b := by
    rw [hb]
    exact .response _ (.response _ (.failure _ (.failure _ .nil)))
  obtain ⟨-, hsettles, -, hsame, -, -⟩ := settle_of_events "monitor".toText a
  have hsettle := (hsettles _).2 (.failed hinterleaves)
  obtain ⟨-, hbreaks, -⟩ := settle_of_events "monitor".toText (b ++ [.broken 3, .failure 4])
  have hbroken := (hbreaks _).2 (.broken hinterleaves')
  exact ⟨_, a, b, _, ha, hb, rfl, hsettle, (hsame _ _ b hinterleaves hinterleaves').trans hsettle, hbroken⟩

end MonitorIntake
