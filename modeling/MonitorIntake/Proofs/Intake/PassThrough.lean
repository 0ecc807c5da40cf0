import MonitorIntake.Proofs.Intake.Response
import MonitorIntake.Proofs.Json.RoundTrip

/-!
# What a response says

**A response reads back as the parameters that were extracted, unless one of their texts holds a surrogate pair**
(`read_response_iff`). Such a pair is joined on the way (`read_response`); everything else is kept: members and their
order, texts, integers of any size, and finite doubles with the sign of a zero.
-/

namespace MonitorIntake

/-- A response is the text of an object that was read and is finite. -/
theorem extract_of_response {parameters : Members} {r : Text}
    (h : .response r ∈ (run parameters).activity) : ∃ e, extract parameters = .ok e ∧
      Json.Fits 0 (.object e.parameters) ∧ (Json.object e.parameters).isFinite = true ∧
      r = (Json.object e.parameters).write := by
  obtain ⟨t, members, hinput, hread, -, hfinite, hr⟩ := response_mem_iff.1 h
  refine ⟨_, extract_of_read hinput hread, ?_⟩
  rw [Extraction.parameters_ofMembers]
  exact ⟨Json.fits_of_read hread, hfinite, hr⟩

/-- **A response is read as the parameters with the surrogate pairs of their texts joined.** -/
theorem read_response {parameters : Members} {r : Text} (h : .response r ∈ (run parameters).activity) :
    ∃ e, extract parameters = .ok e ∧ Json.read r = .ok (Json.object e.parameters).joined := by
  obtain ⟨e, he, hfits, hfinite, rfl⟩ := extract_of_response h
  exact ⟨e, he, Json.read_write hfits hfinite⟩

/-- **A response is read as the parameters themselves iff none of their texts holds a surrogate pair.** -/
theorem read_response_iff {parameters : Members} {r : Text} (h : .response r ∈ (run parameters).activity) :
    ∃ e, extract parameters = .ok e ∧ (Json.read r = .ok (.object e.parameters) ↔
      ∀ t, Json.Mentions t (.object e.parameters) → ¬ t.HasPair) := by
  obtain ⟨e, he, hfits, hfinite, rfl⟩ := extract_of_response h
  refine ⟨e, he, ?_⟩
  rw [Json.read_write hfits hfinite, Except.ok.injEq]
  exact Json.joined_eq_self_iff hfits

/-- An escaped high surrogate with a low one after it as itself: two code points that are read back as one. -/
theorem read_response_of_pair : ∃ t r e,
    t = "\x7b\"index\": \"\\ud83d".toText ++ ⟨0xDE00, by decide⟩ :: "\"\x7d".toText ∧
      .response r ∈ (run [(inputName, .string t)]).activity ∧ extract [(inputName, .string t)] = .ok e ∧
      e.parameters = [(indexName, .string [⟨0xD83D, by decide⟩, ⟨0xDE00, by decide⟩])] ∧
      Json.read r ≠ .ok (.object e.parameters) := by
  obtain ⟨t, ht⟩ : ∃ t, t = "\x7b\"index\": \"\\ud83d".toText ++ ⟨0xDE00, by decide⟩ :: "\"\x7d".toText := ⟨_, rfl⟩
  obtain ⟨members, hmembers⟩ : ∃ members : Members,
    members = [(indexName, .string [⟨0xD83D, by decide⟩, ⟨0xDE00, by decide⟩])] := ⟨_, rfl⟩
  have hread : Json.read t = .ok (.object members) := by
    rw [ht, hmembers]
    cbv
  have hextract := @extract_of_read [(inputName, .string t)] members t rfl hread
  have hresponse : (run [(inputName, .string t)]).activity = [.response (Json.object members).write] := by
    rw [run_of_extract hextract, hmembers]
    cbv
  obtain ⟨e, he, hiff⟩ := read_response_iff (hresponse ▸ List.mem_singleton_self _)
  rw [hextract] at he
  cases he
  rw [Extraction.parameters_ofMembers] at hiff
  refine ⟨t, _, _, ht, hresponse ▸ List.mem_singleton_self _, hextract, ?_, ?_⟩
  · rw [Extraction.parameters_ofMembers, hmembers]
  · rw [Extraction.parameters_ofMembers]
    intro hsame
    refine hiff.1 hsame [⟨0xD83D, by decide⟩, ⟨0xDE00, by decide⟩] ?_ ⟨_, _, List.infix_rfl, by decide, by decide⟩
    rw [hmembers]
    exact .inl (.member List.mem_cons_self .self)

end MonitorIntake
