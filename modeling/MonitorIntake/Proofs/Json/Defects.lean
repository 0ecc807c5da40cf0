import Mathlib.Data.List.TakeWhile
import MonitorIntake.Json.Encodable
import MonitorIntake.Proofs.Json.RoundTrip

/-!
# Values that a report can carry

**The writer of reports finds a defect exactly in the values that a report cannot carry** (`defect?_eq_none_iff`): those
with half of a surrogate pair in a string or a name, and those with an element that lies too deep. `OccursAt u n v` says
how deep the value `u` stands inside `v`.
-/

namespace MonitorIntake.Json

/-! ## Depths -/

/-- The value `u` is the given one, at depth 0, or stands inside it, one level deeper for each container around it. -/
inductive OccursAt (u : Json) : Nat → Json → Prop
  | self : OccursAt u 0 u
  | item {n : Nat} {v : Json} {items : List Json} : v ∈ items → OccursAt u n v → OccursAt u (n + 1) (.array items)
  | member {n : Nat} {k : Text} {v : Json} {members : List (Text × Json)} :
      (k, v) ∈ members → OccursAt u n v → OccursAt u (n + 1) (.object members)

/-- No value in `v` lies deeper than `limit`, where `v` itself lies `level` levels deep. -/
def WithinDepth (limit level : Nat) (v : Json) : Prop := ∀ u n, OccursAt u n v → level + n ≤ limit

section Depth

variable {limit level : Nat}

theorem withinDepth_array {items : List Json} : WithinDepth limit level (.array items) ↔
    level ≤ limit ∧ ∀ v ∈ items, WithinDepth limit (level + 1) v := by
  constructor
  · refine fun h => ⟨h _ 0 .self, fun v hv u n hn => ?_⟩
    have := h u (n + 1) (.item hv hn)
    omega
  · rintro ⟨hlevel, hitems⟩ u n hn
    cases hn with
    | self => exact hlevel
    | item hv hn =>
      have := hitems _ hv _ _ hn
      omega

theorem withinDepth_object {members : List (Text × Json)} : WithinDepth limit level (.object members) ↔
    level ≤ limit ∧ ∀ p ∈ members, WithinDepth limit (level + 1) p.2 := by
  constructor
  · refine fun h => ⟨h _ 0 .self, fun p hp u n hn => ?_⟩
    have := h u (n + 1) (.member hp hn)
    omega
  · rintro ⟨hlevel, hmembers⟩ u n hn
    cases hn with
    | self => exact hlevel
    | member hp hn =>
      have := hmembers _ hp _ _ hn
      omega

theorem withinDepth_scalar {v : Json} (harray : ∀ items, v ≠ .array items) (hobject : ∀ members, v ≠ .object members) :
    WithinDepth limit level v ↔ level ≤ limit := by
  refine ⟨fun h => h v 0 .self, fun h u n hn => ?_⟩
  cases hn with
  | self => exact h
  | item _ _ => exact absurd rfl (harray _)
  | member _ _ => exact absurd rfl (hobject _)

/-- The depth of a value bounds the containers that are open in it. -/
theorem Fits.of_withinDepth {v : Json} {k : Nat} (h : Fits k v) (hdepth : WithinDepth limit level v)
    (hlimit : limit < nestingLimit) : Fits level v := by
  induction v generalizing k level with
  | null => exact .null
  | bool b => exact .bool
  | int i =>
    cases h with
    | int hdigits => exact .int hdigits
  | double d => exact .double
  | string t => exact .string
  | array items ih =>
    obtain ⟨hlevel, hinner⟩ := withinDepth_array.1 hdepth
    cases h with
    | array _ hitems => exact .array (by omega) fun v hv => ih v hv (hitems v hv) (hinner v hv)
  | object members ih =>
    obtain ⟨hlevel, hinner⟩ := withinDepth_object.1 hdepth
    cases h with
    | object _ hnodup hmembers =>
      exact .object (by omega) hnodup fun p hp => ih p.1 p.2 hp (hmembers p hp) (hinner p hp)

end Depth

/-! ## Defects -/

/-- Half of a surrogate pair stands in a string or in a name, at any depth. -/
def HasSurrogate (v : Json) : Prop := ∃ t, Mentions t v ∧ t.hasSurrogate = true

theorem hasSurrogate_string {t : Text} : HasSurrogate (.string t) ↔ t.hasSurrogate = true := by
  simp [HasSurrogate, mentions_string]

theorem hasSurrogate_array {items : List Json} : HasSurrogate (.array items) ↔ ∃ v ∈ items, HasSurrogate v := by
  simp only [HasSurrogate, mentions_array]
  grind

theorem hasSurrogate_object {members : List (Text × Json)} :
    HasSurrogate (.object members) ↔ ∃ p ∈ members, p.1.hasSurrogate = true ∨ HasSurrogate p.2 := by
  simp only [HasSurrogate, mentions_object]
  constructor
  · rintro ⟨t, ⟨p, hp, rfl | ht⟩, hsurrogate⟩
    · exact ⟨p, hp, .inl hsurrogate⟩
    · exact ⟨p, hp, .inr ⟨t, ht, hsurrogate⟩⟩
  · rintro ⟨p, hp, hsurrogate | ⟨t, ht, hsurrogate⟩⟩
    · exact ⟨p.1, ⟨p, hp, .inl rfl⟩, hsurrogate⟩
    · exact ⟨t, ⟨p, hp, .inr ht⟩, hsurrogate⟩

theorem textDefect?_eq_none_iff {t : Text} : textDefect? t = none ↔ t.hasSurrogate = false := by
  have hdrop : t.dropWhile (!·.isSurrogate) = [] ↔ t.hasSurrogate = false := by
    simp [List.dropWhile_eq_nil_iff, Text.hasSurrogate_eq_false]
  rw [← hdrop]
  unfold textDefect?
  split <;> simp [*]

theorem itemsDefect?_eq_none_iff {level : Nat} : ∀ {items : List Json},
    itemsDefect? level items = none ↔ ∀ v ∈ items, defect? level v = none
  | [] => by simp [itemsDefect?]
  | v :: rest => by
    rw [itemsDefect?, Option.or_eq_none_iff, itemsDefect?_eq_none_iff, List.forall_mem_cons]

theorem membersDefect?_eq_none_iff {level : Nat} : ∀ {members : List (Text × Json)},
    membersDefect? level members = none ↔ ∀ p ∈ members, p.1.hasSurrogate = false ∧ defect? level p.2 = none
  | [] => by simp [membersDefect?]
  | (k, v) :: rest => by
    rw [membersDefect?, Option.or_eq_none_iff, Option.or_eq_none_iff, textDefect?_eq_none_iff,
      membersDefect?_eq_none_iff, List.forall_mem_cons, and_assoc]

theorem defect?_eq_none {level : Nat} {v : Json} {rest : Option Defect}
    (h : defect? level v = if depthLimit < level then some .tooDeep else rest) :
    defect? level v = none ↔ level ≤ depthLimit ∧ rest = none := by
  rw [h]
  split <;> simp <;> omega

/-- **A value has a defect iff it holds half of a surrogate pair or lies too deep in part.** -/
theorem defect?_eq_none_iff {level : Nat} {v : Json} :
    defect? level v = none ↔ ¬ HasSurrogate v ∧ WithinDepth depthLimit level v := by
  induction v generalizing level with
  | string t =>
    rw [defect?_eq_none (by rw [defect?]), textDefect?_eq_none_iff, hasSurrogate_string,
      withinDepth_scalar (by simp) (by simp), Bool.not_eq_true, and_comm]
  | array items ih =>
    rw [defect?_eq_none (by rw [defect?]), itemsDefect?_eq_none_iff, hasSurrogate_array, withinDepth_array]
    grind
  | object members ih =>
    rw [defect?_eq_none (by rw [defect?]), membersDefect?_eq_none_iff, hasSurrogate_object, withinDepth_object]
    grind
  | _ =>
    rw [defect?_eq_none (by rw [defect?] <;> simp), withinDepth_scalar (by simp) (by simp)]
    refine ⟨fun h => ⟨?_, h.1⟩, fun h => ⟨h.2, rfl⟩⟩
    rintro ⟨t, ht | ⟨members, u, ht, -⟩, -⟩ <;> cases ht

end MonitorIntake.Json
