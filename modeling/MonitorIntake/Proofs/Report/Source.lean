import MonitorIntake.Proofs.Json.Unambiguous
import MonitorIntake.Proofs.Report.Answer

/-!
# Where a request has its input from

**The answer depends on one value only** (`answer_of_effectiveInput`): the effective input, which is taken from the
environment or else from standard input, there out of its wrapper if it has one. `EffectiveInput q x` says what it is
without the steps that find it, and is the value that the tool reads (`effectiveInput_iff`). A request with an effective
input has the answer of every other request with the same one, however they are given.

All that the answer reads of the parameters is their `input` (`answer_congr`); this is why the other members of an
environment or of a wrapper do not matter.
-/

namespace MonitorIntake

/-! ## Only the input is read -/

theorem run_congr {ps ps' : Members} (h : Members.get? inputName ps = Members.get? inputName ps') :
    run ps = run ps' := by
  unfold run decode
  rw [h]

theorem get?_embedInput_congr {ps ps' : Members} (h : Members.get? inputName ps = Members.get? inputName ps') :
    Members.get? inputName (embedInput ps) = Members.get? inputName (embedInput ps') := by
  unfold embedInput
  rw [h]
  split
  · rw [Members.get?_put, Members.get?_put, if_pos rfl, if_pos rfl]
  · exact h

/-- **Requests whose parameters have the same input have the same answer.** -/
theorem answer_congr {q q' : Request} {ps ps' : Members} (hq : q.parameters = .ok ps) (hq' : q'.parameters = .ok ps')
    (h : Members.get? inputName ps = Members.get? inputName ps') : q.answer = q'.answer := by
  rw [Request.answer_eq hq, Request.answer_eq hq', ToolKind.outcome, ToolKind.outcome,
    run_congr (get?_embedInput_congr h)]

namespace Request

/-! ## Parameters -/

/-- The environment does not count: it is missing, empty, or exactly the text of the empty object. -/
def Unused (environment : Option Text) : Prop := ∀ t, environment = some t → t = [] ∨ t = "\x7b\x7d".toText

section Parameters

variable {environment : Option Text} {input : StandardInput} {t : Text} {members : Members}

theorem parameters_of_environment (ht : t ≠ []) (hobject : t ≠ "\x7b\x7d".toText) :
    parameters ⟨some t, input⟩ = readMembers t := by
  simp [parameters, ht, hobject]

theorem parameters_of_unused (h : Unused environment) :
    parameters ⟨environment, input⟩ = parameters ⟨none, input⟩ := by
  cases environment with
  | none => rfl
  | some t => rcases h t rfl with rfl | rfl <;> rfl

theorem readMembers_eq_ok_iff : readMembers t = .ok members ↔ Json.read t = .ok (.object members) := by
  unfold readMembers
  cases Json.read t with
  | error e => simp
  | ok v => cases v <;> simp

/-- The text of an object holds a brace. -/
theorem not_blank_of_read (h : Json.read t = .ok (.object members)) : t.isBlank = false := by
  obtain ⟨ps, hps, -⟩ := Json.topLevel_of_document (Json.read_eq_ok_iff.1 h) fun _ hw => hw
  obtain ⟨t₁, hbrace⟩ : ∃ t₁, Json.Gap t (('\x7b' : CodePoint) :: t₁) := by
    cases hps with
    | empty hopen _ _ => exact ⟨_, hopen⟩
    | members hopen _ _ _ => exact ⟨_, hopen⟩
  exact Text.isBlank_eq_false (hbrace.suffix.subset List.mem_cons_self) (by decide)

theorem parameters_of_blank (h : t.isBlank = true) : parameters ⟨none, .text t⟩ = .ok [] := by
  simp [parameters, h]

theorem parameters_of_text (h : t.isBlank = false) : parameters ⟨none, .text t⟩ = (readMembers t).map unwrap := by
  simp [parameters, h]

theorem parameters_of_read (h : Json.read t = .ok (.object members)) :
    parameters ⟨none, .text t⟩ = .ok (unwrap members) := by
  rw [parameters_of_text (not_blank_of_read h), readMembers_eq_ok_iff.2 h]
  rfl

end Parameters

/-! ## The effective input -/

/-- The value of `input` that counts, if there is one. -/
inductive EffectiveInput : Request → Option Json → Prop
  /-- An environment that counts is taken as it is. -/
  | environment {t : Text} {members : Members} {input : StandardInput} : t ≠ [] → t ≠ "\x7b\x7d".toText →
      Json.read t = .ok (.object members) → EffectiveInput ⟨some t, input⟩ (Members.get? inputName members)
  | terminal {environment : Option Text} : Unused environment → EffectiveInput ⟨environment, .terminal⟩ none
  | blank {environment : Option Text} {t : Text} : Unused environment → t.isBlank = true →
      EffectiveInput ⟨environment, .text t⟩ none
  /-- The input in a wrapper comes before one beside it. -/
  | wrapped {environment : Option Text} {t : Text} {members inner : Members} {v : Json} : Unused environment →
      Json.read t = .ok (.object members) → Members.get? wrapperName members = some (.object inner) →
      Members.get? inputName inner = some v → EffectiveInput ⟨environment, .text t⟩ (some v)
  | bare {environment : Option Text} {t : Text} {members : Members} : Unused environment →
      Json.read t = .ok (.object members) →
      (∀ inner v, Members.get? wrapperName members = some (.object inner) → Members.get? inputName inner ≠ some v) →
      EffectiveInput ⟨environment, .text t⟩ (Members.get? inputName members)

section Wrapper

variable {members inner : Members}

theorem get?_unwrap_wrapped {v : Json} (hwrapper : Members.get? wrapperName members = some (.object inner))
    (hinner : Members.get? inputName inner = some v) : Members.get? inputName (unwrap members) = some v := by
  unfold unwrap
  rw [hwrapper]
  cases Members.get? inputName members with
  | none => exact hinner
  | some w => simp [Members.contains, hinner]

theorem get?_unwrap_bare (h : ∀ inner v, Members.get? wrapperName members = some (.object inner) →
    Members.get? inputName inner ≠ some v) :
    Members.get? inputName (unwrap members) = Members.get? inputName members := by
  unfold unwrap
  split
  · next inner hwrapper =>
    have hinner : Members.get? inputName inner = none := Option.eq_none_iff_forall_ne_some.2 fun v => h inner v hwrapper
    cases hbeside : Members.get? inputName members with
    | none => exact hinner
    | some v => simp [Members.contains, hinner, Members.get?_put]
  · rfl

end Wrapper

theorem effectiveInput_of_text {environment : Option Text} {t : Text} {ps : Members} (hunused : Unused environment)
    (h : parameters ⟨none, .text t⟩ = .ok ps) :
    EffectiveInput ⟨environment, .text t⟩ (Members.get? inputName ps) := by
  cases hblank : t.isBlank with
  | true =>
    rw [parameters_of_blank hblank] at h
    cases h
    exact .blank hunused hblank
  | false =>
    rw [parameters_of_text hblank] at h
    cases hmembers : readMembers t with
    | error e =>
      rw [hmembers] at h
      cases h
    | ok members =>
      rw [hmembers] at h
      cases h
      have hread := readMembers_eq_ok_iff.1 hmembers
      by_cases hwrapped : ∃ inner v, Members.get? wrapperName members = some (.object inner) ∧
          Members.get? inputName inner = some v
      · obtain ⟨inner, v, hwrapper, hinner⟩ := hwrapped
        rw [get?_unwrap_wrapped hwrapper hinner]
        exact .wrapped hunused hread hwrapper hinner
      · have hbare : ∀ inner v, Members.get? wrapperName members = some (.object inner) →
            Members.get? inputName inner ≠ some v := by
          intro inner v hwrapper hinner
          exact hwrapped ⟨inner, v, hwrapper, hinner⟩
        rw [get?_unwrap_bare hbare]
        exact .bare hunused hread hbare

/-- **The effective input is the input among the parameters.** -/
theorem effectiveInput_iff {q : Request} {x : Option Json} :
    EffectiveInput q x ↔ ∃ ps, q.parameters = .ok ps ∧ Members.get? inputName ps = x := by
  constructor
  · intro h
    cases h with
    | environment ht hobject hread =>
      exact ⟨_, (parameters_of_environment ht hobject).trans (readMembers_eq_ok_iff.2 hread), rfl⟩
    | terminal hunused => exact ⟨[], parameters_of_unused hunused, rfl⟩
    | blank hunused hblank => exact ⟨[], (parameters_of_unused hunused).trans (parameters_of_blank hblank), rfl⟩
    | wrapped hunused hread hwrapper hinner =>
      exact ⟨_, (parameters_of_unused hunused).trans (parameters_of_read hread), get?_unwrap_wrapped hwrapper hinner⟩
    | bare hunused hread hbare =>
      exact ⟨_, (parameters_of_unused hunused).trans (parameters_of_read hread), get?_unwrap_bare hbare⟩
  · rintro ⟨ps, hps, rfl⟩
    obtain ⟨environment, input⟩ := q
    by_cases hunused : Unused environment
    · rw [parameters_of_unused hunused] at hps
      cases input with
      | terminal =>
        cases hps
        exact .terminal hunused
      | text t => exact effectiveInput_of_text hunused hps
    · obtain ⟨t, rfl, ht, hobject⟩ : ∃ t, environment = some t ∧ t ≠ [] ∧ t ≠ "\x7b\x7d".toText := by
        simpa [Unused] using hunused
      rw [parameters_of_environment ht hobject, readMembers_eq_ok_iff] at hps
      exact .environment ht hobject hps

theorem EffectiveInput.unique {q : Request} {x y : Option Json} (hx : EffectiveInput q x) (hy : EffectiveInput q y) :
    x = y := by
  obtain ⟨ps, hps, rfl⟩ := effectiveInput_iff.1 hx
  obtain ⟨ps', hps', rfl⟩ := effectiveInput_iff.1 hy
  rw [hps] at hps'
  cases hps'
  rfl

section Object

variable {t : Text} {members : Members} {environment : Option Text}

/-- The text of an object in the environment counts, as it is not empty. -/
theorem effectiveInput_of_environment (input : StandardInput) (ht : t ≠ "\x7b\x7d".toText)
    (hread : Json.read t = .ok (.object members)) :
    EffectiveInput ⟨some t, input⟩ (Members.get? inputName members) := by
  refine .environment (fun hempty => ?_) ht hread
  have hblank := not_blank_of_read hread
  rw [hempty] at hblank
  cases hblank

/-- An object with an `input` and nothing else has it as its effective input. -/
theorem effectiveInput_of_only {x : Option Json}
    (hread : Json.read t = .ok (.object (x.toList.map fun v => (inputName, v)))) :
    EffectiveInput ⟨none, .text t⟩ x := by
  have hinput : Members.get? inputName (x.toList.map fun v => (inputName, v)) = x := by
    cases x <;> simp [Members.get?]
  have hwrapper : Members.get? wrapperName (x.toList.map fun v => (inputName, v)) = none := by
    have hne : inputName ≠ wrapperName := by decide
    cases x <;> simp [Members.get?, hne]
  -- The only member is the input, so there is no wrapper to look into.
  have hunused : Unused none := by
    intro u hu
    cases hu
  rw [← hinput]
  refine .bare hunused hread fun inner v h => ?_
  rw [hwrapper] at h
  cases h

end Object

end Request

/-! ## Answers -/

theorem answer_of_parameters_eq {q q' : Request} (h : q.parameters = q'.parameters) : q.answer = q'.answer := by
  rw [Request.answer, Request.answer, h]

/-- **Requests with the same effective input have the same answer.** -/
theorem Request.EffectiveInput.answer_eq {q q' : Request} {x : Option Json} (h : EffectiveInput q x)
    (h' : EffectiveInput q' x) : q.answer = q'.answer := by
  obtain ⟨ps, hps, rfl⟩ := effectiveInput_iff.1 h
  obtain ⟨ps', hps', hinput⟩ := effectiveInput_iff.1 h'
  exact answer_congr hps hps' hinput.symm

/-- **The answer depends on the effective input only.** Standard input has no influence next to an environment that
counts, and an environment that does not count has none; a terminal and a blank text count as the empty object. The text
of an object has one effective input wherever it is given, and every other request with the same one has the same
answer, among them each text of an object with just this `input`. An object that wraps nothing counts the same in the
environment and on standard input. -/
theorem answer_of_effectiveInput :
    (∀ t input input', t ≠ [] → t ≠ "\x7b\x7d".toText →
      Request.answer ⟨some t, input⟩ = Request.answer ⟨some t, input'⟩) ∧
    (∀ environment input, Request.Unused environment →
      Request.answer ⟨environment, input⟩ = Request.answer ⟨none, input⟩) ∧
    (∀ input, (input = .terminal ∨ ∃ t, input = .text t ∧ t.isBlank = true) →
      Request.answer ⟨none, input⟩ = Request.answer ⟨none, .text "\x7b\x7d".toText⟩) ∧
    (∀ t members, Json.read t = .ok (.object members) →
      (∀ input, t ≠ "\x7b\x7d".toText → ∃! x, Request.EffectiveInput ⟨some t, input⟩ x) ∧
        ∀ environment, Request.Unused environment → ∃! x, Request.EffectiveInput ⟨environment, .text t⟩ x) ∧
    (∀ q q' x, Request.EffectiveInput q x → Request.EffectiveInput q' x → q.answer = q'.answer) ∧
    (∀ q x s, Request.EffectiveInput q x → Json.read s = .ok (.object (x.toList.map fun v => (inputName, v))) →
      q.answer = Request.answer ⟨none, .text s⟩) ∧
    ∀ t members environment input, t ≠ "\x7b\x7d".toText → Json.read t = .ok (.object members) →
      (∀ inner, Members.get? Request.wrapperName members ≠ some (.object inner)) → Request.Unused environment →
      Request.answer ⟨some t, input⟩ = Request.answer ⟨environment, .text t⟩ := by
  refine ⟨?_, ?_, ?_, ?_, ?_, ?_, ?_⟩
  · intro t input input' ht hobject
    apply answer_of_parameters_eq
    rw [Request.parameters_of_environment ht hobject, Request.parameters_of_environment ht hobject]
  · intro environment input hunused
    exact answer_of_parameters_eq (Request.parameters_of_unused hunused)
  · intro input hinput
    have hempty : Json.read "\x7b\x7d".toText = .ok (.object []) := by cbv
    apply answer_of_parameters_eq
    rw [Request.parameters_of_read hempty]
    rcases hinput with rfl | ⟨t, rfl, hblank⟩
    · rfl
    · exact Request.parameters_of_blank hblank
  · intro t members hread
    constructor
    · intro input hobject
      have hx := Request.effectiveInput_of_environment input hobject hread
      exact ⟨_, hx, fun y hy => hy.unique hx⟩
    · intro environment hunused
      have hx := Request.effectiveInput_of_text hunused (Request.parameters_of_read hread)
      exact ⟨_, hx, fun y hy => hy.unique hx⟩
  · intro q q' x hq hq'
    exact hq.answer_eq hq'
  · intro q x s hq hread
    exact hq.answer_eq (Request.effectiveInput_of_only hread)
  · intro t members environment input hobject hread hplain hunused
    have henvironment := Request.effectiveInput_of_environment input hobject hread
    have htext : Request.EffectiveInput ⟨environment, .text t⟩ (Members.get? inputName members) := by
      refine .bare hunused hread fun inner v hwrapper => ?_
      exact absurd hwrapper (hplain inner)
    exact henvironment.answer_eq htext

/-- A wrapped null comes before the text beside the wrapper. -/
theorem answer_of_wrapped_null : ∃ t s,
    t = "\x7b\"parameters\": \x7b\"input\": null\x7d, \"input\": \"\x7b\x7d\"\x7d".toText ∧
      s = "\x7b\"input\": null\x7d".toText ∧
      Request.EffectiveInput ⟨some "\x7b\x7d".toText, .text t⟩ (some .null) ∧
      Request.answer ⟨some "\x7b\x7d".toText, .text t⟩ = Request.answer ⟨none, .text s⟩ := by
  obtain ⟨t, ht⟩ : ∃ t,
    t = "\x7b\"parameters\": \x7b\"input\": null\x7d, \"input\": \"\x7b\x7d\"\x7d".toText := ⟨_, rfl⟩
  obtain ⟨s, hs⟩ : ∃ s, s = "\x7b\"input\": null\x7d".toText := ⟨_, rfl⟩
  have hread : Json.read t = .ok (.object [(Request.wrapperName, .object [(inputName, .null)]),
      (inputName, .string "\x7b\x7d".toText)]) := by
    rw [ht]
    cbv
  have hread' : Json.read s = .ok (.object [(inputName, .null)]) := by
    rw [hs]
    cbv
  have hunused : Request.Unused (some "\x7b\x7d".toText) := by
    intro u hu
    cases hu
    exact .inr rfl
  have heffective : Request.EffectiveInput ⟨some "\x7b\x7d".toText, .text t⟩ (some .null) :=
    .wrapped hunused hread rfl rfl
  obtain ⟨-, -, -, -, -, hanswer, -⟩ := answer_of_effectiveInput
  exact ⟨t, s, ht, hs, heffective, hanswer _ _ _ heffective hread'⟩

end MonitorIntake
