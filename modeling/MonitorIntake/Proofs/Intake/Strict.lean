import MonitorIntake.Proofs.Intake.PassThrough
import MonitorIntake.Proofs.Json.WrittenAscii

/-!
# Responses are strict JSON

**A response is one line of printable ASCII and an object of strict JSON** (`document_of_response`), also where its input
is no strict JSON or holds code points and numbers of any kind. The reader accepts more than that: it has words for
numbers that JSON lacks, and such a word may well stand in an accepted input, as the value of a name that is given
another value later.
-/

namespace MonitorIntake

namespace Json

/-- The text of a finite value that could have been read is a strict document of the value with its pairs joined. -/
theorem document_write {v : Json} (h : Fits 0 v) (hfinite : v.isFinite = true) :
    Document .strict v.write v.joined := by
  have hvalue := value_write h hfinite []
  rw [List.append_nil] at hvalue
  exact ⟨_, _, .none, hvalue, .none⟩

end Json

/-- **A response is one line of ASCII and a strict document of an object**: of the extracted parameters, with the
surrogate pairs of their texts joined. -/
theorem document_of_response {parameters : Members} {r : Text} (h : .response r ∈ (run parameters).activity) :
    r.IsAsciiLine ∧ ∃ e members, extract parameters = .ok e ∧
      (Json.object e.parameters).joined = .object members ∧ Json.Document .strict r (.object members) := by
  obtain ⟨e, he, hfits, hfinite, rfl⟩ := extract_of_response h
  refine ⟨Json.isAsciiLine_write _, e, _, he, rfl, ?_⟩
  exact Json.document_write hfits hfinite

/-- An input that is no strict JSON, as it has the word for a number that JSON lacks, with control characters, a code
point above U+FFFF, half of a surrogate pair and a negative zero. -/
theorem document_of_loose_input : ∃ t r members,
    t = "\x7b\"index\": [-0.0, \"\x7f\\u0000😀\"], \"n\\ud800\": NaN, \"n\\ud800\": 100000000000000000000\x7d".toText ∧
      r = "\x7b\"index\": [-0.0, \"\\u007f\\u0000\\ud83d\\ude00\"], \"n\\ud800\": 100000000000000000000\x7d".toText ∧
      .response r ∈ (run [(inputName, .string t)]).activity ∧ r.IsAsciiLine ∧
      Json.Document .strict r (.object members) := by
  obtain ⟨t, ht⟩ : ∃ t, t =
    "\x7b\"index\": [-0.0, \"\x7f\\u0000😀\"], \"n\\ud800\": NaN, \"n\\ud800\": 100000000000000000000\x7d".toText :=
      ⟨_, rfl⟩
  obtain ⟨r, hr⟩ : ∃ r, r =
    "\x7b\"index\": [-0.0, \"\\u007f\\u0000\\ud83d\\ude00\"], \"n\\ud800\": 100000000000000000000\x7d".toText :=
      ⟨_, rfl⟩
  obtain ⟨members, hmembers⟩ : ∃ members : Members, members =
    [(indexName, .array [.double (Double.finite true Magnitude.zero), .string "\x7f\x00😀".toText]),
      ("n".toText ++ [⟨0xD800, by decide⟩], .int 100000000000000000000)] := ⟨_, rfl⟩
  have hread : Json.read t = .ok (.object members) := by
    rw [ht, hmembers]
    cbv
  have hresponse : .response r ∈ (run [(inputName, .string t)]).activity := by
    refine response_mem_iff.2 ⟨t, members, rfl, hread, ?_, ?_, ?_⟩
    · simp [IndexMissing, hmembers, Members.get?]
    · rw [hmembers]
      cbv
    · rw [hmembers, hr]
      cbv
  obtain ⟨hline, e, members', -, -, hdocument⟩ := document_of_response hresponse
  exact ⟨t, r, members', ht, hr, hresponse, hline, hdocument⟩

end MonitorIntake
