import MonitorIntake.Proofs.Intake.Delivery

/-!
# Responses as inputs

**A response settles after one more run** (`response_of_response`). It is an input with a response, and that response is
its own response. The only thing that a run can change is a surrogate pair whose halves stand side by side: it is
joined, and names that become the same are merged. So nothing changes any more for an input without surrogates.
-/

namespace MonitorIntake

/-- The parameters of a run on a text. -/
def inputOf (t : Text) : Members := [(inputName, .string t)]

/-- **The text of an object that could respond responds as the object with its surrogate pairs joined.** -/
theorem response_of_write {members : Members} (hfits : Json.Fits 0 (.object members))
    (hindex : ¬ IndexMissing members) (hfinite : (Json.object members).isFinite = true) :
    ∃ members', (Json.object members).joined = .object members' ∧ ¬ IndexMissing members' ∧
      (run (inputOf (Json.object members).write)).activity = [.response (Json.object members').write] := by
  obtain ⟨members', hmembers'⟩ : ∃ members', members' = Members.ofPairs (Json.joinedMembers members) := ⟨_, rfl⟩
  have hjoined : (Json.object members).joined = .object members' := by rw [Json.joined, hmembers']
  have hindex' : ¬ IndexMissing members' := by
    obtain ⟨v, hv, hvalue⟩ := not_indexMissing_iff.1 hindex
    cases hfits with
    | object _ hnodup _ =>
      refine not_indexMissing_iff.2 ⟨v.joined, ?_, Json.isIndex_joined.2 hvalue⟩
      rw [hmembers', Json.get?_ofPairs_joinedMembers indexName_lt hnodup, hv, Option.map_some]
  have hfinite' := Json.isFinite_joined hfinite
  have hread := Json.read_write hfits hfinite
  rw [hjoined] at hread hfinite'
  refine ⟨members', hjoined, hindex', activity_of_response (response_mem_iff.2 ?_)⟩
  exact ⟨_, members', rfl, hread, hindex', hfinite', rfl⟩

/-- **A response is an input with a response, which is its own response**; where the input has no surrogates, the
response itself is. -/
theorem response_of_response {parameters : Members} {r : Text} (h : .response r ∈ (run parameters).activity) :
    ∃ r', (run (inputOf r)).activity = [.response r'] ∧ (run (inputOf r')).activity = [.response r'] ∧
      ∀ t, Members.get? inputName parameters = some (.string t) → t.hasSurrogate = false → r' = r := by
  obtain ⟨t, members, hinput, hread, hindex, hfinite, rfl⟩ := response_mem_iff.1 h
  have hfits := Json.fits_of_read hread
  obtain ⟨members', hjoined, hindex', hrun⟩ := response_of_write hfits hindex hfinite
  have hfits' := Json.fits_joined hfits
  have hfinite' := Json.isFinite_joined hfinite
  have hsettled := Json.joined_joined hfits
  rw [hjoined] at hfits' hfinite' hsettled
  obtain ⟨members'', hjoined', -, hrun'⟩ := response_of_write hfits' hindex' hfinite'
  -- The second run joins what is joined already.
  obtain rfl : members' = members'' := by simpa using hsettled.symm.trans hjoined'
  refine ⟨_, hrun, hrun', fun t' hinput' hplain => ?_⟩
  rw [hinput] at hinput'
  cases hinput'
  rw [← hjoined, Json.joined_of_read hread hplain]

/-- Two names that differ in how a pair is held are written alike, and the second run merges them. -/
theorem response_of_colliding_names : ∃ t r r',
    t = "\x7b\"index\": \"a\", \"\\ud83d".toText ++ ⟨0xDE00, by decide⟩ :: "\": 1, \"\\ud83d\\ude00\": 2\x7d".toText ∧
      r = "\x7b\"index\": \"a\", \"\\ud83d\\ude00\": 1, \"\\ud83d\\ude00\": 2\x7d".toText ∧
      r' = "\x7b\"index\": \"a\", \"\\ud83d\\ude00\": 2\x7d".toText ∧
      .response r ∈ (run (inputOf t)).activity ∧ (run (inputOf r)).activity = [.response r'] ∧
      (run (inputOf r')).activity = [.response r'] := by
  obtain ⟨t, ht⟩ : ∃ t, t = "\x7b\"index\": \"a\", \"\\ud83d".toText ++
    ⟨0xDE00, by decide⟩ :: "\": 1, \"\\ud83d\\ude00\": 2\x7d".toText := ⟨_, rfl⟩
  obtain ⟨r, hr⟩ : ∃ r, r = "\x7b\"index\": \"a\", \"\\ud83d\\ude00\": 1, \"\\ud83d\\ude00\": 2\x7d".toText :=
    ⟨_, rfl⟩
  have hread : Json.read t = .ok (.object [(indexName, .string "a".toText),
      ([⟨0xD83D, by decide⟩, ⟨0xDE00, by decide⟩], .int 1), ("😀".toText, .int 2)]) := by
    rw [ht]
    cbv
  have hresponse : .response r ∈ (run (inputOf t)).activity := by
    refine response_mem_iff.2 ⟨t, _, rfl, hread, ?_, by cbv, by rw [hr]; cbv⟩
    exact not_indexMissing_iff.2 ⟨.string "a".toText, by cbv, by simp, by cbv⟩
  have hreadMerged : Json.read r = .ok (.object [(indexName, .string "a".toText), ("😀".toText, .int 2)]) := by
    rw [hr]
    cbv
  have hmerged : (run (inputOf r)).activity =
      [.response "\x7b\"index\": \"a\", \"\\ud83d\\ude00\": 2\x7d".toText] := by
    refine activity_of_response (response_mem_iff.2 ⟨r, _, rfl, hreadMerged, ?_, by cbv, by cbv⟩)
    exact not_indexMissing_iff.2 ⟨.string "a".toText, by cbv, by simp, by cbv⟩
  obtain ⟨r', hrun, hrun', -⟩ := response_of_response hresponse
  rw [hmerged] at hrun
  cases hrun
  exact ⟨t, r, _, ht, hr, rfl, hresponse, hmerged, hrun'⟩

end MonitorIntake
