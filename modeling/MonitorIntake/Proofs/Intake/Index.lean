import MonitorIntake.Proofs.Intake.Outcome
import MonitorIntake.Proofs.Json.Distinct

/-!
# What the text of an index tells

**The text of a structured index is that of no other one** (`index_eq_iff`): two inputs whose indexes are arrays or
objects have the same index text exactly if these are the same value, at every depth and with the order of members.
The text of a string is the string itself and not quoted, so it may be that of a container as well.
-/

namespace MonitorIntake

/-- The value is an array or an object. -/
def Json.IsContainer (v : Json) : Prop := (∃ items, v = .array items) ∨ ∃ members, v = .object members

/-- The input among the parameters denotes an object whose index is the value. -/
def HasIndex (parameters : Members) (v : Json) : Prop :=
  ∃ members, decode parameters = .ok (.object members) ∧ Members.get? indexName members = some v

/-- **A container will do as an index**, and its text is the one that it has inside other values. -/
theorem extract_of_container {parameters : Members} {v : Json} (h : HasIndex parameters v) (hv : v.IsContainer) :
    ∃ e, extract parameters = .ok e ∧ e.status = .ok ∧ e.index = v.literal := by
  obtain ⟨members, hdecode, hget⟩ := h
  have htext : Extraction.indexText members = v.literal := by
    rw [Extraction.indexText, hget]
    rcases hv with ⟨items, rfl⟩ | ⟨ms, rfl⟩ <;> rfl
  have hvisible : v.literal.isBlank = false := by
    rcases hv with ⟨items, rfl⟩ | ⟨ms, rfl⟩
    · exact Json.display_not_blank (v := .array items) fun t => by simp
    · exact Json.display_not_blank (v := .object ms) fun t => by simp
  refine ⟨.ofMembers members, by simp [extract, hdecode, Except.map, Decoding.extraction], ?_⟩
  rw [Extraction.ofMembers, htext, hvisible]
  exact ⟨rfl, rfl⟩

/-- **The text of a structured index tells the value**: of two such indexes it is the same only if they are. -/
theorem index_eq_iff {p q : Members} {v w : Json} (hp : HasIndex p v) (hq : HasIndex q w) (hv : v.IsContainer)
    (hw : w.IsContainer) : ∃ e f, (extract p = .ok e ∧ e.status = .ok ∧ e.index = v.literal) ∧
      (extract q = .ok f ∧ f.status = .ok ∧ f.index = w.literal) ∧ (e.index = f.index ↔ v = w) := by
  obtain ⟨e, he⟩ := extract_of_container hp hv
  obtain ⟨f, hf⟩ := extract_of_container hq hw
  refine ⟨e, f, he, hf, ?_⟩
  rw [he.2.2, hf.2.2]
  exact Json.literal_injective.eq_iff

/-- One string that looks like two, and zeros of both signs. -/
theorem index_of_lookalikes : ∃ s t v w e f, s = "\x7b\"index\": [\"a', 'b\", -0.0, NaN]\x7d".toText ∧
    t = "\x7b\"index\": [\"a\", \"b\", 0.0, NaN]\x7d".toText ∧ HasIndex [(inputName, .string s)] v ∧
      HasIndex [(inputName, .string t)] w ∧ v.IsContainer ∧ w.IsContainer ∧
      extract [(inputName, .string s)] = .ok e ∧ extract [(inputName, .string t)] = .ok f ∧
      e.index = "[\"a', 'b\", -0.0, nan]".toText ∧ f.index = "['a', 'b', 0.0, nan]".toText ∧ e.index ≠ f.index := by
  obtain ⟨s, hs⟩ : ∃ s, s = "\x7b\"index\": [\"a', 'b\", -0.0, NaN]\x7d".toText := ⟨_, rfl⟩
  obtain ⟨t, ht⟩ : ∃ t, t = "\x7b\"index\": [\"a\", \"b\", 0.0, NaN]\x7d".toText := ⟨_, rfl⟩
  obtain ⟨v, hv⟩ : ∃ v, v = Json.array [.string "a', 'b".toText, .double (.finite true .zero), .double .nan] :=
    ⟨_, rfl⟩
  obtain ⟨w, hw⟩ : ∃ w, w = Json.array [.string "a".toText, .string "b".toText, .double (.finite false .zero),
    .double .nan] := ⟨_, rfl⟩
  have hp : HasIndex [(inputName, .string s)] v := by
    refine ⟨[(indexName, v)], ?_, rfl⟩
    rw [hs, hv]
    cbv
  have hq : HasIndex [(inputName, .string t)] w := by
    refine ⟨[(indexName, w)], ?_, rfl⟩
    rw [ht, hw]
    cbv
  have hvc : v.IsContainer := .inl ⟨_, hv⟩
  have hwc : w.IsContainer := .inl ⟨_, hw⟩
  have hne : v ≠ w := by simp [hv, hw]
  obtain ⟨e, f, ⟨he, -, hev⟩, ⟨hf, -, hfw⟩, hiff⟩ := index_eq_iff hp hq hvc hwc
  refine ⟨s, t, v, w, e, f, hs, ht, hp, hq, hvc, hwc, he, hf, ?_, ?_, fun h => hne (hiff.1 h)⟩
  · rw [hev, hv]
    cbv
  · rw [hfw, hw]
    cbv

/-- A string is not quoted on its own, so it may have the text of an array. -/
example : (Json.string "[1]".toText).display = (Json.array [.int 1]).display := by decide

end MonitorIntake
