import MonitorIntake.Proofs.Intake.PassThrough
import MonitorIntake.Proofs.Json.Joined
import MonitorIntake.Proofs.Json.Unambiguous

/-!
# The index that is delivered

**The index that is checked is the one that is delivered** (`index_of_response`). Between its outer braces a response
names the index once, so it does not matter which of several a reader would take, and the value is neither null nor
blank. However often the input names the index, and however the name is spelled, what was checked and is delivered is
its last value, at the place where the name came first.

The members of a response are those of the extracted object with their surrogate pairs joined (`topLevel_write`); that
no other name becomes the index is a fact about joining, as `index` is spelled below U+D800.
-/

namespace MonitorIntake

/-! ## Values that may stand for an index -/

/-- The value may stand for an index: it is not null, and its text is not blank. -/
def Json.IsIndex (v : Json) : Prop := v ≠ .null ∧ v.display.isBlank = false

theorem not_indexMissing_iff {members : Members} :
    ¬ IndexMissing members ↔ ∃ v, Members.get? indexName members = some v ∧ v.IsIndex := by
  rw [← Extraction.indexText_blank, Bool.not_eq_true]
  unfold Extraction.indexText Json.IsIndex
  cases Members.get? indexName members with
  | none => simp [Text.isBlank]
  | some v => cases v <;> simp [Text.isBlank]

/-- Joining makes no value an index and takes none away. -/
theorem Json.isIndex_joined {v : Json} : v.joined.IsIndex ↔ v.IsIndex := by
  cases v with
  | string t => simp [joined, IsIndex, display, Text.isBlank_joinPairs]
  | array items => simp [joined, IsIndex, display_not_blank]
  | object members => simp [joined, IsIndex, display_not_blank]
  | _ => rfl

theorem indexName_lt : ∀ c ∈ indexName, c.val < 0xD800 := by decide

/-! ## The members of a response -/

namespace Json

theorem joinedMembers_append (ms ms' : Members) :
    joinedMembers (ms ++ ms') = joinedMembers ms ++ joinedMembers ms' := by
  simp [joinedMembers_eq_map]

theorem mem_names_joinedMembers {k : Text} (hk : ∀ c ∈ k, c.val < 0xD800) {ms : Members} :
    k ∈ Members.names (joinedMembers ms) ↔ k ∈ Members.names ms := by
  rw [← not_iff_not, ← Members.get?_eq_none_iff, ← Members.get?_eq_none_iff, get?_joinedMembers hk,
    Option.map_eq_none_iff]

/-- **A written object lists its members in their order, with their surrogate pairs joined.** -/
theorem topLevel_write {members : Members} (h : Fits 0 (object members)) (hfinite : (object members).isFinite = true) :
    TopLevel .bounded (object members).write (joinedMembers members) := by
  rw [isFinite, membersFinite_iff] at hfinite
  cases h with
  | object hk _ hmembers =>
    cases members with
    | nil => exact .empty .none .none .none
    | cons p rest =>
      rw [joinedMembers_eq_map, show (object (p :: rest)).write = ('\x7b' : CodePoint) ::
        (compactMembers ascii (p :: rest) ++ [('\x7d' : CodePoint)]) from rfl]
      refine .members .none .none (pairs_compact fun q hq u => ?_) .none
      exact (value_write (hmembers q hq) (hfinite q.1 q.2 hq) u).mono Dialect.strict_le_bounded

end Json

/-! ## What is checked and what is delivered -/

/-- **The index that is checked is the index that is delivered.** The response lists one member of that name, and the
value may stand for an index. It is the last value that the input gives to the name, in the place where the name comes
first; only its surrogate pairs are joined when it is read. -/
theorem index_of_response {parameters : Members} {r : Text} (h : .response r ∈ (run parameters).activity) :
    (∃ rs, Json.TopLevel .extended r rs) ∧
    (∀ rs, Json.TopLevel .extended r rs → ∃ before v after, rs = before ++ (indexName, v) :: after ∧
      indexName ∉ Members.names before ∧ indexName ∉ Members.names after ∧ v.IsIndex) ∧
    ∃ t, Members.get? inputName parameters = some (.string t) ∧ (∃ ps, Json.TopLevel .extended t ps) ∧
      ∀ ps, Json.TopLevel .extended t ps → ∃ first v₀ rest earlier v later before after,
        ps = first ++ (indexName, v₀) :: rest ∧ indexName ∉ Members.names first ∧
        ps = earlier ++ (indexName, v) :: later ∧ indexName ∉ Members.names later ∧ v.IsIndex ∧
        r = (Json.object (before ++ (indexName, v) :: after)).write ∧
        Members.names before = (Members.names first).eraseDups ∧
        Json.TopLevel .extended r (Json.joinedMembers before ++ (indexName, v.joined) :: Json.joinedMembers after) ∧
        (v.joined = v ↔ ∀ s, Json.Mentions s v → ¬ s.HasPair) := by
  obtain ⟨t, members, hinput, hread, hindex, hfinite, rfl⟩ := response_mem_iff.1 h
  have hfits := Json.fits_of_read hread
  have hwritten := (Json.topLevel_write hfits hfinite).mono Json.Dialect.bounded_le_extended
  obtain ⟨ps, hps, hm⟩ := Json.topLevel_of_document (Json.read_eq_ok_iff.1 hread) fun _ h => h
  have hlisted := hps.mono Json.Dialect.bounded_le_extended
  obtain ⟨v, hv, hvalue⟩ := not_indexMissing_iff.1 hindex
  obtain ⟨first, v₀, rest, before, after, hsplit, hfirst, rfl, hbefore, hafter⟩ := Members.merged_split hm hv
  obtain ⟨earlier, later, hlast, hlater⟩ := Members.split_of_get?_reverse (hm.2 _ _ (Members.mem_of_get? hv))
  -- No name but `index` itself is joined to `index`, so joining neither hides the index nor makes a second one.
  have hname : indexName.joinPairs = indexName := (Text.joinPairs_eq_iff indexName_lt).2 rfl
  rw [Json.joinedMembers_append, Json.joinedMembers, hname] at hwritten
  refine ⟨⟨_, hwritten⟩, fun rs hrs => ?_, t, hinput, ⟨ps, hlisted⟩, fun ps' hps' => ?_⟩
  · obtain rfl := hrs.unique hwritten fun _ h => h
    refine ⟨_, _, _, rfl, ?_, ?_, Json.isIndex_joined.2 hvalue⟩
    · rw [Json.mem_names_joinedMembers indexName_lt, hbefore, List.mem_eraseDups]
      exact hfirst
    · rw [Json.mem_names_joinedMembers indexName_lt]
      exact hafter
  · obtain rfl := hps'.unique hlisted fun _ h => h
    refine ⟨first, v₀, rest, earlier, v, later, before, after, hsplit, hfirst, hlast, hlater, hvalue, rfl, hbefore,
      hwritten, ?_⟩
    cases hfits with
    | object _ _ hmembers => exact Json.joined_eq_self_iff (hmembers (indexName, v) (by simp))

/-- A blank index is outdone by a later one whose name is spelled with an escape. -/
theorem index_of_respelled_name : ∃ t r,
    t = "\x7b\"index\": \" \", \"n\": 1, \"\\u0069ndex\": \"logs\"\x7d".toText ∧
      r = "\x7b\"index\": \"logs\", \"n\": 1\x7d".toText ∧
      .response r ∈ (run [(inputName, .string t)]).activity ∧
      ∃ before v after, Json.TopLevel .extended r (before ++ (indexName, v) :: after) ∧
        indexName ∉ Members.names before ∧ indexName ∉ Members.names after ∧ v.IsIndex := by
  obtain ⟨t, ht⟩ : ∃ t, t = "\x7b\"index\": \" \", \"n\": 1, \"\\u0069ndex\": \"logs\"\x7d".toText := ⟨_, rfl⟩
  have hread : Json.read t = .ok (.object [(indexName, .string "logs".toText), ("n".toText, .int 1)]) := by
    rw [ht]
    cbv
  have hresponse : .response "\x7b\"index\": \"logs\", \"n\": 1\x7d".toText ∈
      (run [(inputName, .string t)]).activity := by
    refine response_mem_iff.2 ⟨t, _, rfl, hread, ?_, by cbv, by cbv⟩
    exact not_indexMissing_iff.2 ⟨.string "logs".toText, by cbv, by simp, by cbv⟩
  obtain ⟨⟨rs, hrs⟩, hone, -⟩ := index_of_response hresponse
  obtain ⟨before, v, after, rfl, h⟩ := hone rs hrs
  exact ⟨t, _, ht, rfl, hresponse, before, v, after, hrs, h⟩

end MonitorIntake
