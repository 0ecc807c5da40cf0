import Mathlib
import MonitorIntake.Proofs.Json.Occurrence
import MonitorIntake.Proofs.Text.Digits
import MonitorIntake.Tool.Run

/-!
# The outcome of a run

An input that denotes an object `v` settles the run: it fails for want of an index, or for a number that JSON lacks, or
responds with the text of `v` (`run_of_object`). The three cases exclude each other, and the index is looked at first.

That the text of an index which is no string never looks blank (`display_not_blank`) needs a case for every kind of
value: words, brackets and digits all hold a code point that is not white space.
-/

namespace MonitorIntake

/-! ## Blank texts -/

namespace Text

theorem isBlank_iff {t : Text} : t.isBlank = true ↔ ∀ c ∈ t, c.isSpace = true := List.all_eq_true

theorem isBlank_eq_false {t : Text} {c : CodePoint} (hc : c ∈ t) (h : c.isSpace = false) : t.isBlank = false := by
  refine Bool.eq_false_iff.2 fun hb => ?_
  rw [isBlank_iff.1 hb c hc] at h
  cases h

end Text

theorem CodePoint.isSpace_of_isDigit {c : CodePoint} (h : c.isDigit = true) : c.isSpace = false := by
  simp only [CodePoint.isDigit, Bool.and_eq_true, decide_eq_true_eq] at h
  simp only [CodePoint.isSpace, Bool.or_eq_false_iff, Bool.and_eq_false_iff, decide_eq_false_iff_not,
    beq_eq_false_iff_ne]
  omega

namespace Text

theorem ofNat_not_blank (n : Nat) : (ofNat n).isBlank = false := by
  obtain ⟨c, hc⟩ := List.exists_mem_of_ne_nil _ (ofNat_ne_nil n)
  exact isBlank_eq_false hc (CodePoint.isSpace_of_isDigit (isDigit_of_mem_ofNat hc))

theorem ofInt_not_blank : ∀ i : Int, (ofInt i).isBlank = false
  | .ofNat n => ofNat_not_blank n
  | .negSucc _ => isBlank_eq_false (c := '-') List.mem_cons_self (by decide)

end Text

/-! ## The text of an index -/

theorem Layout.write_not_blank (l : Layout) (d : Decimal) : (l.write d).isBlank = false := by
  unfold Layout.write
  split
  · refine Text.isBlank_eq_false (c := '.') ?_ (by decide)
    simp only [Layout.positional]
    split
    · exact List.mem_append_left _ (List.mem_append_left _ (by decide))
    · split
      · exact List.mem_append_right _ (by decide)
      · exact List.mem_append_left _ (List.mem_append_right _ (by decide))
  · refine Text.isBlank_eq_false (c := 'e') ?_ (by decide)
    exact List.mem_append_left _ (List.mem_append_right _ (by decide))

theorem Double.literal_not_blank (d : Double) : (Json.literalDouble d).isBlank = false := by
  cases d with
  | nan => decide
  | infinite negative => cases negative <;> decide
  | finite negative m =>
    cases negative with
    | true => exact Text.isBlank_eq_false (c := '-') List.mem_cons_self (by decide)
    | false => exact Layout.write_not_blank _ _

/-- **Only a string has a blank text**: the words, the digits and the brackets of the other values are visible. -/
theorem Json.display_not_blank {v : Json} (h : ∀ t, v ≠ .string t) : v.display.isBlank = false := by
  cases v with
  | null => decide
  | bool b => cases b <;> decide
  | int i => exact Text.ofInt_not_blank i
  | double d => exact d.literal_not_blank
  | string t => exact absurd rfl (h t)
  | array items => exact Text.isBlank_eq_false (c := '[') List.mem_cons_self (by decide)
  | object members => exact Text.isBlank_eq_false (c := '\x7b') List.mem_cons_self (by decide)

/-- No index is named: the member is absent, null, or a string of white space only. -/
def IndexMissing (members : Members) : Prop :=
  Members.get? indexName members = none ∨ Members.get? indexName members = some .null ∨
    ∃ t, Members.get? indexName members = some (.string t) ∧ ∀ c ∈ t, c.isSpace = true

theorem Extraction.indexText_blank {members : Members} :
    (indexText members).isBlank = true ↔ IndexMissing members := by
  unfold indexText IndexMissing
  cases hget : Members.get? indexName members with
  | none => simp [Text.isBlank]
  | some v =>
    cases v with
    | null => simp [Text.isBlank]
    | string t => simp [Json.display, Text.isBlank_iff]
    | _ => simp [Json.display_not_blank]

theorem Extraction.isOk_ofMembers {members : Members} : (ofMembers members).isOk = true ↔ ¬ IndexMissing members := by
  rw [← indexText_blank]
  unfold ofMembers
  by_cases h : (indexText members).isBlank <;> simp [h, isOk]

theorem Extraction.parameters_ofMembers (members : Members) : (ofMembers members).parameters = members := by
  unfold ofMembers
  by_cases h : (indexText members).isBlank <;> simp [h]

/-! ## Runs -/

/-- What a run reports about an extraction. -/
def Extraction.activity (e : Extraction) : Activity Failure :=
  match e.response with
  | .ok t => [.response t]
  | .error f => [.failure f]

theorem extract_of_read {parameters members : Members} {t : Text}
    (hinput : Members.get? inputName parameters = some (.string t)) (hread : Json.read t = .ok (.object members)) :
    extract parameters = .ok (.ofMembers members) := by
  simp [extract, decode, hinput, decodeText, hread, Except.map, Decoding.extraction]

theorem run_of_extract {parameters : Members} {e : Extraction} (h : extract parameters = .ok e) :
    (run parameters).activity = e.activity := by
  unfold run Extraction.activity
  cases hd : decode parameters with
  | error f => simp [extract, hd, Except.map] at h
  | ok d =>
    simp only [extract, hd, Except.map, Except.ok.injEq] at h
    subst h
    cases hr : d.extraction.response <;> simp only [hr]

theorem run_of_extract_error {parameters : Members} {f : Failure} (h : extract parameters = .error f) :
    (run parameters).activity = [.failure f] := by
  unfold run
  cases hd : decode parameters with
  | error f' =>
    simp only [extract, hd, Except.map, Except.error.injEq] at h
    rw [h]
  | ok d => simp [extract, hd, Except.map] at h

/-- The three outcomes of an object. -/
theorem Extraction.activity_ofMembers (members : Members) :
    (IndexMissing members → (ofMembers members).activity = [.failure .missingIndex]) ∧
    (¬ IndexMissing members → (Json.object members).HasNonFinite →
      (ofMembers members).activity = [.failure .nonFiniteNumber]) ∧
    (¬ IndexMissing members → ¬ (Json.object members).HasNonFinite →
      (ofMembers members).activity = [.response (Json.object members).write]) := by
  rw [← isOk_ofMembers, ← Json.isFinite_eq_false_iff]
  simp only [activity, response, parameters_ofMembers]
  refine ⟨fun h => ?_, fun h hf => ?_, fun h hf => ?_⟩
  · simp [show (ofMembers members).isOk = false from Bool.eq_false_iff.2 fun ho => isOk_ofMembers.1 ho h]
  · simp [h, Json.strict?, hf]
  · simp [h, Json.strict?, Bool.not_eq_false _ ▸ hf]

/-- **The outcome of a run whose input denotes an object.** Exactly one event is reported. It is the missing index
whatever else the object holds; otherwise a number that JSON lacks, at any depth, is a failure of its own; otherwise
the object is written. -/
theorem run_of_object {parameters members : Members} {t : Text}
    (hinput : Members.get? inputName parameters = some (.string t)) (hread : Json.read t = .ok (.object members)) :
    ((run parameters).activity.broken? = none ∧
      (run parameters).activity.responses.length + (run parameters).activity.failures.length = 1) ∧
    ((run parameters).activity = [.failure .missingIndex] ↔ IndexMissing members) ∧
    ((run parameters).activity = [.failure .nonFiniteNumber] ↔
      ¬ IndexMissing members ∧ (Json.object members).HasNonFinite) ∧
    ((run parameters).activity = [.response (Json.object members).write] ↔
      ¬ IndexMissing members ∧ ¬ (Json.object members).HasNonFinite) := by
  rw [run_of_extract (extract_of_read hinput hread)]
  obtain ⟨hmissing, hnumber, hresponse⟩ := Extraction.activity_ofMembers members
  by_cases hi : IndexMissing members
  · simp [hmissing hi, hi, Activity.broken?, Activity.responses, Activity.failures]
  by_cases hn : (Json.object members).HasNonFinite
  · simp [hnumber hi hn, hi, hn, Activity.broken?, Activity.responses, Activity.failures]
  · simp [hresponse hi hn, hi, hn, Activity.broken?, Activity.responses, Activity.failures]

/-- An empty array counts as an index, and a number that is too large is found inside an array. -/
theorem run_of_object_overflow :
    Json.read "\x7b\"index\": [], \"n\": [1e400]\x7d".toText =
      .ok (.object [("index".toText, .array []), ("n".toText, .array [.double (.infinite false)])]) ∧
    (run [(inputName, .string "\x7b\"index\": [], \"n\": [1e400]\x7d".toText)]).activity =
      [.failure .nonFiniteNumber] := by
  have hread : Json.read "\x7b\"index\": [], \"n\": [1e400]\x7d".toText =
      .ok (.object [("index".toText, .array []), ("n".toText, .array [.double (.infinite false)])]) := by cbv
  refine ⟨hread, (run_of_object (t := "\x7b\"index\": [], \"n\": [1e400]\x7d".toText) (by cbv) hread).2.2.1.2 ⟨?_, ?_⟩⟩
  · have hget : Members.get? indexName [("index".toText, .array []), ("n".toText, .array [.double (.infinite false)])] =
        some (.array []) := by cbv
    simp [IndexMissing, hget]
  · exact ⟨_, .member (List.mem_cons_of_mem _ List.mem_cons_self) (.item List.mem_cons_self .self), .inr ⟨_, rfl⟩⟩

end MonitorIntake
