import MonitorIntake.Proofs.Intake.Outcome
import MonitorIntake.Proofs.Json.Limits

/-!
# Which inputs are accepted

* **Accepted inputs** (`extract_of_text`): a text within the limits is accepted iff it is a JSON object of the extended
  grammar, and what it is decoded to is the value that it denotes.
* **Other inputs** (`extract_of_malformed`): whatever else the input is, the run is that of an input which is absent,
  with one exception: an integer with too many digits at a place that the reader reaches is reported as a failure.
  Such an input is malformed and is surfaced all the same (`surfaced_digits`).
-/

namespace MonitorIntake

/-! ## The three ways of an extraction -/

/-- The ways in which an extraction may come out. -/
inductive ExtractStep (parameters : Members) : Except Failure Extraction → Prop
  | object {t : Text} {members : Members} : Members.get? inputName parameters = some (.string t) →
      Json.read t = .ok (.object members) → ExtractStep parameters (.ok (.ofMembers members))
  | tooManyDigits {t : Text} {count : Nat} : Members.get? inputName parameters = some (.string t) →
      Json.read t = .error (.tooManyDigits count) → ExtractStep parameters (.error (.tooManyDigits count))
  | empty : (∀ t, Members.get? inputName parameters = some (.string t) →
      (∀ members, Json.read t ≠ .ok (.object members)) ∧ ∀ count, Json.read t ≠ .error (.tooManyDigits count)) →
      ExtractStep parameters (.ok .empty)

theorem extract_step (parameters : Members) : ExtractStep parameters (extract parameters) := by
  unfold extract decode
  split
  · next hnone => exact .empty (by simp [hnone])
  · next t hstring =>
    have only : ∀ {P : Text → Prop}, P t → ∀ t', Members.get? inputName parameters = some (.string t') → P t' := by
      rintro P hP t' h
      rw [hstring] at h
      cases h
      exact hP
    unfold decodeText
    split
    · next members hread => exact .object hstring hread
    · next v hobject hread =>
      refine .empty (only ?_)
      rw [hread]
      exact ⟨fun members heq => hobject members (by simpa using heq), fun count => by simp⟩
    · next count hread => exact .tooManyDigits hstring hread
    · next error hdigits hread =>
      refine .empty (only ?_)
      rw [hread]
      exact ⟨fun members => by simp, fun count heq => hdigits count (by simpa using heq)⟩
  · next v hother hget =>
    refine .empty fun t h => ?_
    rw [hget] at h
    cases h
    exact absurd rfl (hother t)

/-! ## Accepted inputs -/

theorem Extraction.status_ofMembers (members : Members) : (ofMembers members).status ≠ .decodeEmpty := by
  unfold ofMembers
  by_cases h : (indexText members).isBlank <;> simp [h]

/-- **An input within the limits is accepted iff it is a JSON object**, and it is decoded to what it denotes. -/
theorem extract_of_text {parameters : Members} {t : Text}
    (hinput : Members.get? inputName parameters = some (.string t)) (hruns : Json.DigitRunsAtMost 4300 t)
    (hopen : Json.OpensAtMost 800 t) :
    ∃ e, extract parameters = .ok e ∧
      (e.status ≠ .decodeEmpty ↔ ∃ members, Json.Document .extended t (.object members)) ∧
      ∀ members, Json.Document .extended t (.object members) → e.parameters = members := by
  have hdocument : ∀ members, Json.read t = .ok (.object members) ↔ Json.Document .extended t (.object members) :=
    fun members => Json.read_eq_ok_iff.trans (Json.document_bounded_iff hruns (hopen.mono (by decide)))
  have hstep := extract_step parameters
  generalize extract parameters = r at hstep
  cases hstep with
  | @object t' members hinput' hread =>
    rw [hinput] at hinput'
    cases hinput'
    refine ⟨_, rfl, ?_, fun members' h => ?_⟩
    · exact ⟨fun _ => ⟨members, (hdocument members).1 hread⟩, fun _ => Extraction.status_ofMembers members⟩
    · have heq := hread.symm.trans ((hdocument members').2 h)
      rw [Extraction.parameters_ofMembers]
      simpa using heq
  | tooManyDigits hinput' hread =>
    rw [hinput] at hinput'
    cases hinput'
    exact absurd (Json.read_eq_tooManyDigits_iff.1 hread) (Json.not_overlong hruns _)
  | empty hother =>
    have hnone : ∀ members, ¬ Json.Document .extended t (.object members) :=
      fun members h => (hother t hinput).1 members ((hdocument members).2 h)
    exact ⟨_, rfl, ⟨fun h => absurd rfl h, fun ⟨members, h⟩ => absurd h (hnone members)⟩,
      fun members h => absurd h (hnone members)⟩

/-- A repeated name keeps its place and takes its last value, and a surrogate pair is joined. -/
theorem extract_of_repeated_name :
    ∃ t e, t = "\x7b\"n\": 1, \"index\": \"\\ud83d\\ude00\", \"n\": 2\x7d".toText ∧
      Json.DigitRunsAtMost 4300 t ∧ Json.OpensAtMost 800 t ∧
      extract [(inputName, .string t)] = .ok e ∧ e.status ≠ .decodeEmpty ∧
      e.parameters = [("n".toText, .int 2), ("index".toText, .string "😀".toText)] := by
  obtain ⟨t, ht⟩ : ∃ t, t = "\x7b\"n\": 1, \"index\": \"\\ud83d\\ude00\", \"n\": 2\x7d".toText := ⟨_, rfl⟩
  have hread : Json.read t = .ok (.object [("n".toText, .int 2), ("index".toText, .string "😀".toText)]) := by
    rw [ht]
    cbv
  have hlength : t.length ≤ 800 := by
    rw [ht]
    decide
  have hruns : Json.DigitRunsAtMost 4300 t := Json.digitRunsAtMost_of_length (Nat.le_trans hlength (by decide))
  have hopen := Json.opensAtMost_of_length hlength
  have hdocument := (Json.document_bounded_iff hruns (hopen.mono (by decide))).1 (Json.read_eq_ok_iff.1 hread)
  obtain ⟨e, he, hstatus, hparameters⟩ := @extract_of_text [(inputName, .string t)] t rfl hruns hopen
  exact ⟨t, e, ht, hruns, hopen, he, hstatus.2 ⟨_, hdocument⟩, hparameters _ hdocument⟩

/-! ## Other inputs -/

/-- **An input that denotes no object is treated as if it were absent, unless its digits stop the reader.** -/
theorem extract_of_malformed {parameters : Members} (hmalformed : ∀ t members,
      Members.get? inputName parameters = some (.string t) → Json.read t ≠ .ok (.object members)) :
    ((run []).activity = [.failure .missingIndex] ∧ Failure.missingIndex.message = Failure.missingIndexMessage) ∧
    ((extract parameters = .ok .empty ∧ (run parameters).activity = (run []).activity) ↔
      ¬ ∃ t count, Members.get? inputName parameters = some (.string t) ∧ Json.Overlong t count) ∧
    ∀ t count, Members.get? inputName parameters = some (.string t) → Json.Overlong t count →
      extract parameters = .error (.tooManyDigits count) ∧
        (run parameters).activity = [.failure (.tooManyDigits count)] := by
  have habsent : (run []).activity = [.failure .missingIndex] :=
    run_of_extract (show extract [] = .ok .empty from rfl)
  have hrun := @run_of_extract parameters
  have hrun' := @run_of_extract_error parameters
  have hstep := extract_step parameters
  generalize extract parameters = r at hstep hrun hrun'
  refine ⟨⟨habsent, rfl⟩, ?_⟩
  cases hstep with
  | object hinput hread => exact absurd hread (hmalformed _ _ hinput)
  | @tooManyDigits t count hinput hread =>
    have hoverlong := Json.read_eq_tooManyDigits_iff.1 hread
    refine ⟨⟨fun h => absurd h.1 (by simp), fun h => absurd ⟨t, count, hinput, hoverlong⟩ h⟩,
      fun t' count' hinput' h => ?_⟩
    rw [hinput] at hinput'
    cases hinput'
    have heq := hread.symm.trans (Json.read_eq_tooManyDigits_iff.2 h)
    obtain rfl : count = count' := by simpa using heq
    exact ⟨rfl, hrun' rfl⟩
  | empty hother =>
    have hnone : ∀ t count, Members.get? inputName parameters = some (.string t) → ¬ Json.Overlong t count :=
      fun t count hinput h => (hother t hinput).2 count (Json.read_eq_tooManyDigits_iff.2 h)
    exact ⟨⟨fun _ ⟨t, count, hinput, h⟩ => hnone t count hinput h, fun _ => ⟨rfl, (hrun rfl).trans habsent.symm⟩⟩,
      fun t count hinput h => absurd h (hnone t count hinput)⟩

/-- An array that is not closed. -/
theorem extract_of_open_array :
    (∀ t members, Members.get? inputName [(inputName, .string "[1".toText)] = some (.string t) →
      Json.read t ≠ .ok (.object members)) ∧
    extract [(inputName, .string "[1".toText)] = .ok .empty ∧
    (run [(inputName, .string "[1".toText)]).activity = [.failure .missingIndex] := by
  have hruns := Json.digitRunsAtMost_of_length (show ("[1".toText).length ≤ 4300 by decide)
  have hmalformed : ∀ t members, Members.get? inputName [(inputName, .string "[1".toText)] = some (.string t) →
      Json.read t ≠ .ok (.object members) := by
    intro t members h hread
    obtain rfl : "[1".toText = t := by simpa using Option.some.inj h
    have hnone : Json.read "[1".toText = .error (.malformed .noComma ⟨2, 1, 3⟩) := by cbv
    rw [hnone] at hread
    cases hread
  obtain ⟨⟨habsent, -⟩, hiff, -⟩ := extract_of_malformed hmalformed
  have hnone : ¬ ∃ t count, Members.get? inputName [(inputName, .string "[1".toText)] = some (.string t) ∧
      Json.Overlong t count := by
    rintro ⟨t, count, hinput, hoverlong⟩
    obtain rfl : "[1".toText = t := by simpa using Option.some.inj hinput
    exact Json.not_overlong hruns count hoverlong
  obtain ⟨hextract, hrun⟩ := hiff.2 hnone
  exact ⟨hmalformed, hextract, hrun.trans habsent⟩

/-- **An integer of one digit too many is malformed and surfaced.** -/
theorem surfaced_digits :
    ∃ t, t = List.replicate 4301 ('1' : CodePoint) ∧ (∀ members, Json.read t ≠ .ok (.object members)) ∧
      extract [(inputName, .string t)] ≠ .ok .empty ∧
      (run [(inputName, .string t)]).activity = [.failure (.tooManyDigits 4301)] ∧
      (run [(inputName, .string t)]).activity ≠ (run []).activity := by
  obtain ⟨t, ht⟩ : ∃ t, t = List.replicate 4301 ('1' : CodePoint) := ⟨_, rfl⟩
  have hdigits : Json.Digits t t [] := by
    refine ⟨(List.append_nil t).symm, ?_, fun c hc => ?_⟩
    · rw [ht]
      exact List.replicate_succ_ne_nil
    · rw [ht] at hc
      rw [List.eq_of_mem_replicate hc]
      decide
  have hoverlong : Json.Overlong t 4301 := by
    refine ⟨0, t, ⟨false, t, [], none⟩, [], .start .none, .positive ?_ .none .none, Json.numberEnds_nil,
      ⟨rfl, rfl⟩, ?_, by decide⟩
    · rw [ht, List.replicate_succ] at hdigits ⊢
      exact .other (by decide) hdigits
    · rw [ht]
      exact List.length_replicate
  have hread := Json.read_eq_tooManyDigits_iff.2 hoverlong
  have hextract : extract [(inputName, .string t)] = .error (.tooManyDigits 4301) := by
    simp [extract, decode, Members.get?, decodeText, hread, Except.map]
  have hactivity := run_of_extract_error hextract
  refine ⟨t, ht, fun members h => ?_, ?_, hactivity, ?_⟩
  · rw [hread] at h
    cases h
  · rw [hextract]
    intro heq
    cases heq
  · rw [hactivity]
    intro heq
    cases heq

end MonitorIntake
