import Mathlib.Data.List.Basic
import Mathlib.Data.List.Induction
import MonitorIntake.Json.Value

/-!
# Members and repeated names

`Merged pairs ms` says what an object makes of repeated names, without saying how: the names stand in the order in which
they come first, each with the value that comes last. `Members.ofPairs` gives exactly these members (`merged_iff`); it
keeps pairs without a repeated name as they are (`ofPairs_eq_self`), and its names are never repeated
(`nodup_names_ofPairs`). A name that is repeated stands where it came first, with the value that came last
(`merged_split`).
-/

namespace MonitorIntake.Members

/-- The names of some members, in order. -/
def names (ms : Members) : List Text := ms.map Prod.fst

@[simp] theorem names_nil : names [] = [] := rfl

@[simp] theorem names_cons (p : Text × Json) (ms : Members) : names (p :: ms) = p.1 :: names ms := rfl

@[simp] theorem names_append (ms ms' : Members) : names (ms ++ ms') = names ms ++ names ms' := List.map_append

/-- The members that pairs stand for: each name where it comes first, with the value that comes last. -/
def Merged (pairs ms : Members) : Prop :=
  names ms = (names pairs).eraseDups ∧ ∀ k v, (k, v) ∈ ms → get? k pairs.reverse = some v

/-! ## Looking up a name -/

theorem get?_eq_none_iff {k : Text} : ∀ {ms : Members}, get? k ms = none ↔ k ∉ names ms
  | [] => by simp [get?]
  | (k', v) :: rest => by
    by_cases h : k' = k
    · simp [get?, h]
    · simp only [get?, if_neg h, @get?_eq_none_iff k rest, names_cons, List.mem_cons, not_or]
      exact ⟨fun hrest => ⟨fun e => h e.symm, hrest⟩, fun hrest => hrest.2⟩

theorem mem_of_get? {k : Text} {v : Json} : ∀ {ms : Members}, get? k ms = some v → (k, v) ∈ ms
  | (k', v') :: rest, h => by
    by_cases hk : k' = k
    · simp only [get?, if_pos hk, Option.some.injEq] at h
      subst hk h
      exact List.mem_cons_self
    · simp only [get?, if_neg hk] at h
      exact List.mem_cons_of_mem _ (mem_of_get? h)

theorem mem_names {k : Text} {ms : Members} : k ∈ names ms ↔ ∃ v, (k, v) ∈ ms := by
  simp [names]

/-- Where no name is repeated, a member is what its name finds. -/
theorem get?_of_mem {k : Text} {v : Json} : ∀ {ms : Members}, (names ms).Nodup → (k, v) ∈ ms → get? k ms = some v
  | (k', v') :: rest, hnodup, h => by
    obtain ⟨hk', hrest⟩ := List.nodup_cons.1 hnodup
    rcases List.mem_cons.1 h with h | h
    · cases h
      simp [get?]
    · have hne : k' ≠ k := fun e => hk' (e ▸ mem_names.2 ⟨v, h⟩)
      simp [get?, hne, get?_of_mem hrest h]

/-- Members with the same names, none repeated, are the same if every name finds the same. -/
theorem ext {ms ms' : Members} (hnames : names ms = names ms') (hnodup : (names ms).Nodup)
    (hget : ∀ k, get? k ms = get? k ms') : ms = ms' := by
  induction ms generalizing ms' with
  | nil => exact (List.map_eq_nil_iff.1 hnames.symm).symm
  | cons p rest ih =>
    cases ms' with
    | nil => cases hnames
    | cons p' rest' =>
      obtain ⟨hp, hrest⟩ := List.cons.inj hnames
      obtain ⟨hfresh, hnodup'⟩ := List.nodup_cons.1 hnodup
      have hv := hget p.1
      simp only [get?, if_pos, if_pos hp.symm, Option.some.injEq] at hv
      rw [Prod.ext hp hv]
      refine congrArg _ (ih hrest hnodup' fun k => ?_)
      by_cases hk : p.1 = k
      · have hfresh' : k ∉ names rest' := by
          rw [← hk, show names rest' = names rest from hrest.symm]
          exact hfresh
        rw [get?_eq_none_iff.2 (hk ▸ hfresh), get?_eq_none_iff.2 hfresh']
      · simpa only [get?, if_neg hk, if_neg (hp ▸ hk)] using hget k

/-! ## Giving a name its value -/

theorem names_put {k : Text} {v : Json} : ∀ {ms : Members},
    names (put k v ms) = if k ∈ names ms then names ms else names ms ++ [k]
  | [] => by simp [put]
  | (k', v') :: rest => by
    by_cases h : k' = k
    · simp [put, h]
    · have hne : k ≠ k' := fun e => h e.symm
      simp only [put, if_neg h, names_cons, @names_put k v rest, List.mem_cons, hne, false_or]
      by_cases hk : k ∈ names rest <;> simp [hk]

theorem get?_put {k k' : Text} {v : Json} : ∀ {ms : Members},
    get? k' (put k v ms) = if k = k' then some v else get? k' ms
  | [] => rfl
  | (k₀, v₀) :: rest => by
    have ih := @get?_put k k' v rest
    by_cases h₀ : k₀ = k
    · by_cases h : k = k' <;> simp [put, get?, h₀, h]
    · by_cases h : k = k'
      · subst h
        simp [put, get?, h₀, ih]
      · simp [put, get?, h₀, h, ih]

/-- A new name goes to the end. -/
theorem put_of_notMem {k : Text} {v : Json} : ∀ {ms : Members}, k ∉ names ms → put k v ms = ms ++ [(k, v)]
  | [], _ => rfl
  | (k', v') :: rest, h => by
    simp only [names_cons, List.mem_cons, not_or] at h
    simp [put, Ne.symm h.1, put_of_notMem h.2]

/-! ## Pairs -/

theorem ofPairs_concat (ps : Members) (p : Text × Json) : ofPairs (ps ++ [p]) = put p.1 p.2 (ofPairs ps) := by
  simp [ofPairs, List.foldl_append]

theorem nodup_names_ofPairs (ps : Members) : (names (ofPairs ps)).Nodup := by
  induction ps using List.reverseRecOn with
  | nil => exact List.nodup_nil
  | append_singleton ps p ih =>
    rw [ofPairs_concat, names_put]
    split
    · exact ih
    · exact List.nodup_append.2 ⟨ih, by simp, by grind⟩

theorem names_ofPairs (ps : Members) : names (ofPairs ps) = (names ps).eraseDups := by
  induction ps using List.reverseRecOn with
  | nil => rfl
  | append_singleton ps p ih =>
    rw [ofPairs_concat, names_put, ih, names_append, List.eraseDups_append]
    by_cases h : p.1 ∈ names ps <;> simp [h, List.removeAll, List.eraseDups_cons]

/-- A name finds the value that comes last. -/
theorem get?_ofPairs (k : Text) (ps : Members) : get? k (ofPairs ps) = get? k ps.reverse := by
  induction ps using List.reverseRecOn with
  | nil => rfl
  | append_singleton ps p ih =>
    rw [ofPairs_concat, get?_put, ih, List.reverse_append]
    rfl

/-- The members are among the pairs. -/
theorem mem_of_mem_ofPairs {k : Text} {v : Json} {ps : Members} (h : (k, v) ∈ ofPairs ps) : (k, v) ∈ ps := by
  have hget := get?_of_mem (nodup_names_ofPairs ps) h
  rw [get?_ofPairs] at hget
  exact List.mem_reverse.1 (mem_of_get? hget)

/-- **`ofPairs` merges repeated names** and nothing else does it otherwise. -/
theorem merged_iff {ps ms : Members} : Merged ps ms ↔ ms = ofPairs ps := by
  constructor
  · rintro ⟨hnames, hvalues⟩
    have hnames' : names ms = names (ofPairs ps) := by rw [hnames, names_ofPairs]
    refine ext hnames' (hnames' ▸ nodup_names_ofPairs ps) fun k => ?_
    rw [get?_ofPairs]
    cases hget : get? k ms with
    | some v => exact (hvalues k v (mem_of_get? hget)).symm
    | none =>
      have hk : k ∉ names (ofPairs ps) := hnames' ▸ get?_eq_none_iff.1 hget
      rw [← get?_ofPairs, get?_eq_none_iff.2 hk]
  · rintro rfl
    refine ⟨names_ofPairs ps, fun k v h => ?_⟩
    rw [← get?_ofPairs]
    exact get?_of_mem (nodup_names_ofPairs ps) h

/-- Pairs without a repeated name are kept as they are. -/
theorem ofPairs_eq_self {ps : Members} (h : (names ps).Nodup) : ofPairs ps = ps := by
  induction ps using List.reverseRecOn with
  | nil => rfl
  | append_singleton ps p ih =>
    rw [names_append, List.nodup_append] at h
    have hp : p.1 ∉ names ps := fun hmem => h.2.2 _ hmem _ (by simp) rfl
    rw [ofPairs_concat, ih h.1, put_of_notMem hp]

/-! ## Numbers of members -/

theorem length_names (ms : Members) : (names ms).length = ms.length := List.length_map _

theorem length_put (k : Text) (v : Json) (ms : Members) :
    (put k v ms).length = if k ∈ names ms then ms.length else ms.length + 1 := by
  rw [← length_names, names_put]
  split <;> simp [length_names]

theorem length_ofPairs_le (ps : Members) : (ofPairs ps).length ≤ ps.length := by
  induction ps using List.reverseRecOn with
  | nil => exact Nat.le_refl _
  | append_singleton ps p ih =>
    rw [ofPairs_concat, length_put, List.length_append, List.length_singleton]
    split <;> omega

/-- Every repeated name makes the members fewer than the pairs. -/
theorem nodup_of_length_ofPairs {ps : Members} (h : (ofPairs ps).length = ps.length) : (names ps).Nodup := by
  induction ps using List.reverseRecOn with
  | nil => exact List.nodup_nil
  | append_singleton ps p ih =>
    have hle := length_ofPairs_le ps
    rw [ofPairs_concat, length_put, List.length_append, List.length_singleton] at h
    split at h
    · omega
    · next hnew =>
      rw [names_ofPairs, List.mem_eraseDups] at hnew
      rw [names_append, List.nodup_append]
      refine ⟨ih (by omega), by simp, fun k hk k' hk' => ?_⟩
      rintro rfl
      exact hnew (List.mem_singleton.1 hk' ▸ hk)

/-! ## Where a name stands -/

/-- What a name finds stands where the name comes first. -/
theorem split_of_get? {k : Text} {v : Json} : ∀ {ms : Members}, get? k ms = some v →
    ∃ before after, ms = before ++ (k, v) :: after ∧ k ∉ names before
  | (k', v') :: rest, h => by
    by_cases hk : k' = k
    · simp only [get?, if_pos hk, Option.some.injEq] at h
      subst hk h
      exact ⟨[], rest, rfl, by simp⟩
    · simp only [get?, if_neg hk] at h
      obtain ⟨before, after, rfl, hfresh⟩ := split_of_get? h
      refine ⟨(k', v') :: before, after, rfl, ?_⟩
      rw [names_cons, List.mem_cons, not_or]
      exact ⟨Ne.symm hk, hfresh⟩

/-- The value that comes last has no other value of its name behind it. -/
theorem split_of_get?_reverse {k : Text} {v : Json} {ms : Members} (h : get? k ms.reverse = some v) :
    ∃ before after, ms = before ++ (k, v) :: after ∧ k ∉ names after := by
  obtain ⟨before, after, hsplit, hfresh⟩ := split_of_get? h
  refine ⟨after.reverse, before.reverse, ?_, ?_⟩
  · rw [← List.reverse_reverse ms, hsplit]
    simp
  · rw [names, List.map_reverse, List.mem_reverse]
    exact hfresh

/-- **A repeated name keeps its first place and takes its last value.** -/
theorem merged_split {k : Text} {v : Json} {ps ms : Members} (hm : Merged ps ms) (hget : get? k ms = some v) :
    ∃ first v₀ rest before after, ps = first ++ (k, v₀) :: rest ∧ k ∉ names first ∧
      ms = before ++ (k, v) :: after ∧ names before = (names first).eraseDups ∧ k ∉ names after := by
  obtain rfl := merged_iff.1 hm
  have hnodup := nodup_names_ofPairs ps
  have hps : ∃ v₀, get? k ps = some v₀ := by
    refine Option.ne_none_iff_exists'.1 fun hnone => get?_eq_none_iff.1 hnone ?_
    exact mem_names.2 ⟨v, mem_of_mem_ofPairs (mem_of_get? hget)⟩
  obtain ⟨v₀, hv₀⟩ := hps
  obtain ⟨first, rest, hsplit, hfirst⟩ := split_of_get? hv₀
  obtain ⟨before, after, hms, hbefore⟩ := split_of_get? hget
  have hafter : k ∉ names after := by
    rw [hms, names_append, names_cons] at hnodup
    exact (List.nodup_cons.1 (List.nodup_append.1 hnodup).2.1).1
  obtain ⟨others, hothers⟩ : ∃ others, ((k :: names rest).removeAll (names first)).eraseDups = k :: others := by
    rw [List.removeAll, List.filter_cons_of_pos (by simpa using hfirst), List.eraseDups_cons]
    exact ⟨_, rfl⟩
  have hnames := names_ofPairs ps
  rw [hms, hsplit, names_append, names_append, names_cons, names_cons, List.eraseDups_append, hothers] at hnames
  refine ⟨first, v₀, rest, before, after, hsplit, hfirst, hms, ?_, hafter⟩
  exact ((List.append_cons_inj_of_notMem hbefore hafter).1 hnames).1

end MonitorIntake.Members
