import MonitorIntake.Proofs.Report.Source

/-!
# Objects and texts as inputs

**An object as input has the answer of its text** (`answer_of_object_or_text`). The object is written and read once more
on the way to the tool, with the words for the numbers that JSON lacks, and this changes no value that comes from a text
without surrogates. So the tool reads the same members either way, and does the same with them, also when it fails.
-/

namespace MonitorIntake

/-! ## The object that is read -/

/-- The text of an object that was read from a text without surrogates is decoded to that object. -/
theorem decodeText_write {s : Text} {members : Members} (hread : Json.read s = .ok (.object members))
    (hplain : s.hasSurrogate = false) : decodeText (Json.object members).write = .ok (.object members) := by
  have hwritten := Json.read_compact (Json.fits_of_read hread)
  rw [Json.joined_of_read hread hplain] at hwritten
  simp only [decodeText, hwritten]

theorem decode_of_text {ps : Members} {t : Text} (h : Members.get? inputName ps = some (.string t)) :
    decode ps = decodeText t := by
  rw [decode, h]

section Inputs

variable {ps ps' members : Members} {s : Text}

theorem get?_embedInput_of_object (h : Members.get? inputName ps = some (.object members)) :
    Members.get? inputName (embedInput ps) = some (.string (Json.object members).write) := by
  rw [embedInput, h]
  simp only
  rw [Members.get?_put, if_pos rfl]

theorem embedInput_of_text (h : Members.get? inputName ps = some (.string s)) : embedInput ps = ps := by
  rw [embedInput, h]

/-- **The run is the same**, with the object as input or with its text. -/
theorem run_of_object_or_text (hread : Json.read s = .ok (.object members)) (hplain : s.hasSurrogate = false)
    (hobject : Members.get? inputName ps = some (.object members))
    (htext : Members.get? inputName ps' = some (.string s)) : run (embedInput ps) = run (embedInput ps') := by
  have hdecode : decode (embedInput ps) = decode (embedInput ps') := by
    rw [decode_of_text (get?_embedInput_of_object hobject), decodeText_write hread hplain, embedInput_of_text htext,
      decode_of_text htext, decodeText, hread]
  unfold run
  rw [hdecode]

end Inputs

/-! ## Requests -/

/-- The parameters with an input and nothing else. -/
def onlyInput (v : Json) : Json := .object [(inputName, v)]

/-- A value with room for one more container around it can be sent as the only input. -/
theorem read_onlyInput {v : Json} (hfits : Json.Fits 1 v) (hjoined : v.joined = v) :
    Json.read (onlyInput v).write = .ok (onlyInput v) := by
  have hfits' : Json.Fits 0 (onlyInput v) :=
    .object (by decide) (List.nodup_singleton _) (List.forall_mem_singleton.2 hfits)
  have hname : inputName.joinPairs = inputName := by decide
  rw [Json.read_compact hfits', onlyInput, Json.joined, Json.joinedMembers, Json.joinedMembers, hname, hjoined]
  rfl

/-- The only input is the one that counts. -/
theorem effectiveInput_of_onlyInput {t : Text} {v : Json} (h : Json.read t = .ok (onlyInput v)) :
    (∀ input, Request.EffectiveInput ⟨some t, input⟩ (some v)) ∧
      ∀ environment, Request.Unused environment → Request.EffectiveInput ⟨environment, .text t⟩ (some v) := by
  have hinput : Members.get? inputName [(inputName, v)] = some v := if_pos rfl
  constructor
  · intro input
    have hobject : t ≠ "\x7b\x7d".toText := by
      rintro rfl
      have hempty : Json.read "\x7b\x7d".toText = .ok (.object []) := by cbv
      rw [hempty] at h
      cases h
    exact hinput ▸ Request.effectiveInput_of_environment input hobject h
  · intro environment hunused
    have hparameters := Request.parameters_of_read h
    exact hinput ▸ Request.effectiveInput_of_text hunused hparameters

/-- **It makes no difference whether an object or its text is sent as the input.** Whatever requests have the object and
the text as their effective inputs, they have the same answer: the same report, or the same reason why there is none.
In particular so do any two texts of parameters with just the one and just the other, in the environment and on
standard input alike; and unless the object is nested too deeply to be put into another one, there are such texts. -/
theorem answer_of_object_or_text {s : Text} {members : Members} (hread : Json.read s = .ok (.object members))
    (hplain : s.hasSurrogate = false) :
    (∀ q q', Request.EffectiveInput q (some (.object members)) → Request.EffectiveInput q' (some (.string s)) →
      q.answer = q'.answer) ∧
    (∀ t t', Json.read t = .ok (onlyInput (.object members)) → Json.read t' = .ok (onlyInput (.string s)) →
      (∀ input input', Request.answer ⟨some t, input⟩ = Request.answer ⟨some t', input'⟩) ∧
      (∀ environment environment', Request.Unused environment → Request.Unused environment' →
        Request.answer ⟨environment, .text t⟩ = Request.answer ⟨environment', .text t'⟩) ∧
      ∀ input environment, Request.Unused environment →
        Request.answer ⟨some t, input⟩ = Request.answer ⟨environment, .text t⟩) ∧
    (Json.WithinDepth 800 0 (.object members) →
      Json.read (onlyInput (.object members)).write = .ok (onlyInput (.object members)) ∧
      Json.read (onlyInput (.string s)).write = .ok (onlyInput (.string s))) := by
  have hsame : ∀ q q', Request.EffectiveInput q (some (.object members)) →
      Request.EffectiveInput q' (some (.string s)) → q.answer = q'.answer := by
    intro q q' hq hq'
    obtain ⟨ps, hps, hobject⟩ := Request.effectiveInput_iff.1 hq
    obtain ⟨ps', hps', htext⟩ := Request.effectiveInput_iff.1 hq'
    rw [Request.answer_eq hps, Request.answer_eq hps', ToolKind.outcome, ToolKind.outcome,
      run_of_object_or_text hread hplain hobject htext]
  refine ⟨hsame, fun t t' ht ht' => ?_, fun hdepth => ?_⟩
  · obtain ⟨henvironment, hinput⟩ := effectiveInput_of_onlyInput ht
    obtain ⟨henvironment', hinput'⟩ := effectiveInput_of_onlyInput ht'
    refine ⟨fun input input' => ?_, fun environment environment' hunused hunused' => ?_,
      fun input environment hunused => ?_⟩
    · exact hsame _ _ (henvironment input) (henvironment' input')
    · exact hsame _ _ (hinput environment hunused) (hinput' environment' hunused')
    · exact (henvironment input).answer_eq (hinput environment hunused)
  · have hdeeper : Json.WithinDepth 801 1 (.object members) := by
      intro u n hn
      have := hdepth u n hn
      omega
    have hjoined : (Json.string s).joined = .string s := by
      rw [Json.joined, Text.joinPairs_eq_self_iff.2 (Text.not_hasPair_of_hasSurrogate hplain)]
    refine ⟨read_onlyInput ?_ (Json.joined_of_read hread hplain), read_onlyInput .string hjoined⟩
    exact (Json.fits_of_read hread).of_withinDepth hdeeper (by decide)

/-- An object with a repeated name and a number that JSON lacks, as it is and as a text. -/
theorem answer_of_overflowing_object : ∃ s t t' members,
    s = "\x7b\"index\": 1, \"index\": \"a\", \"n\": [NaN, -1e400]\x7d".toText ∧
      t = "\x7b\"input\": \x7b\"index\": 1, \"index\": \"a\", \"n\": [NaN, -1e400]\x7d\x7d".toText ∧
      t' = (onlyInput (.string s)).write ∧ s.hasSurrogate = false ∧ Json.read s = .ok (.object members) ∧
      Json.read t = .ok (onlyInput (.object members)) ∧ Json.read t' = .ok (onlyInput (.string s)) ∧
      Request.answer ⟨some t, .terminal⟩ = Request.answer ⟨some t', .terminal⟩ ∧
      Request.answer ⟨none, .text t⟩ = Request.answer ⟨none, .text t'⟩ := by
  obtain ⟨s, hs⟩ : ∃ s, s = "\x7b\"index\": 1, \"index\": \"a\", \"n\": [NaN, -1e400]\x7d".toText := ⟨_, rfl⟩
  obtain ⟨t, ht⟩ : ∃ t,
    t = "\x7b\"input\": \x7b\"index\": 1, \"index\": \"a\", \"n\": [NaN, -1e400]\x7d\x7d".toText := ⟨_, rfl⟩
  obtain ⟨members, hmembers⟩ : ∃ members : Members, members = [(indexName, .string "a".toText),
    ("n".toText, .array [.double .nan, .double (.infinite true)])] := ⟨_, rfl⟩
  have hread : Json.read s = .ok (.object members) := by
    rw [hs, hmembers]
    cbv
  have hobject : Json.read t = .ok (onlyInput (.object members)) := by
    rw [ht, hmembers]
    cbv
  have hplain : s.hasSurrogate = false := by
    rw [hs]
    decide
  have hdepth : Json.WithinDepth 800 0 (.object members) := by
    rw [hmembers]
    simp [Json.withinDepth_object, Json.withinDepth_array, Json.withinDepth_scalar]
  have hunused : Request.Unused none := by
    intro u hu
    cases hu
  obtain ⟨-, hsame, hsent⟩ := answer_of_object_or_text hread hplain
  obtain ⟨-, htext⟩ := hsent hdepth
  obtain ⟨henvironment, hinput, -⟩ := hsame t _ hobject htext
  exact ⟨s, t, _, members, hs, ht, rfl, hplain, hread, hobject, htext, henvironment _ _,
    hinput none none hunused hunused⟩

end MonitorIntake
