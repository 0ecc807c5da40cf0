import Mathlib.Data.List.Nodup
import MonitorIntake.Config
import MonitorIntake.Proofs.Json.Members

/-!
# What is wrong with a configuration

The issues of an object that should be a configuration name exactly the places whose values may not stand there
(`mem_locations_iff`, `Misplaced`). **They are the smallest repair** (`ofDatum_object`): without the members at all these
places the object is accepted, with all other overrides and fields as they were, and without the members at only some of
them it is not. An accepted object has the overrides that it gives, and so has what is written of them
(`Config.toJson`).
-/

namespace MonitorIntake

/-! ## Places in values -/

namespace Json

/-- The value at a place. -/
def valueAt? : Location → Json → Option Json
  | [], v => some v
  | .name n :: rest, .object members => (Members.get? n members).bind (valueAt? rest)
  | _ :: _, _ => none

mutual

/-- The value at the place `here` without the members at some places. -/
def without (places : List Location) (here : Location) : Json → Json
  | .object members => .object (membersWithout places here members)
  | v => v

/-- The members of an object at the place `here` without those at some places. -/
def membersWithout (places : List Location) (here : Location) : Members → Members
  | [] => []
  | (name, v) :: rest =>
    if here ++ [.name name] ∈ places then membersWithout places here rest
    else (name, v.without places (here ++ [.name name])) :: membersWithout places here rest

end

section Places

variable {places : List Location} {here l : Location} {v w : Json} {members : Members} {name : Text}

theorem valueAt?_name (name : Text) (rest : Location) (members : Members) :
    valueAt? (.name name :: rest) (.object members) = (Members.get? name members).bind (valueAt? rest) := rfl

/-- Nothing stands inside a value that is no object. -/
theorem valueAt?_of_not_object (hv : v.members? = none) (hl : l ≠ []) : valueAt? l v = none := by
  cases l with
  | nil => exact absurd rfl hl
  | cons step rest =>
    cases step with
    | number i => rfl
    | name n =>
      cases v with
      | object members => cases hv
      | _ => rfl

theorem valueAt?_append : ∀ (l m : Location) (v : Json), valueAt? (l ++ m) v = (valueAt? l v).bind (valueAt? m)
  | [], m, v => rfl
  | .name n :: rest, m, .object members => by
    rw [List.cons_append, valueAt?_name, valueAt?_name, Option.bind_assoc]
    exact congrArg _ (funext fun v => valueAt?_append rest m v)
  | .number i :: rest, m, v => rfl
  | .name n :: rest, m, .null | .name n :: rest, m, .bool b | .name n :: rest, m, .int i
  | .name n :: rest, m, .double d | .name n :: rest, m, .string t | .name n :: rest, m, .array items => rfl

/-- A member that is not left out is found without those inside it. -/
theorem get?_membersWithout : Members.get? name (membersWithout places here members) =
    if here ++ [.name name] ∈ places then none
    else (Members.get? name members).map (without places (here ++ [.name name])) := by
  induction members with
  | nil => exact (ite_self _).symm
  | cons p rest ih =>
    obtain ⟨n, v⟩ := p
    by_cases hn : n = name
    · subst hn
      by_cases hplace : here ++ [.name n] ∈ places
      · simp only [membersWithout, if_pos hplace] at ih ⊢
        exact ih
      · simp only [membersWithout, if_neg hplace, Members.get?, if_pos, Option.map_some]
    · by_cases hplace : here ++ [.name n] ∈ places
      · simp only [membersWithout, if_pos hplace, Members.get?, if_neg hn, ih]
      · simp only [membersWithout, if_neg hplace, Members.get?, if_neg hn, ih]

/-- Neither the place `l` inside the one of `here` is left out nor a place on the way to it. -/
def Spared (places : List Location) (here l : Location) : Prop := ∀ m, m ≠ [] → m <+: l → here ++ m ∉ places

theorem spared_nil (places : List Location) (here : Location) : Spared places here [] :=
  fun _ hm hbegins => absurd (List.prefix_nil.1 hbegins) hm

theorem spared_cons {s : Step} : Spared places here (s :: l) ↔ here ++ [s] ∉ places ∧ Spared places (here ++ [s]) l := by
  constructor
  · intro h
    refine ⟨h _ (List.cons_ne_nil _ _) (List.prefix_append [s] l), fun m _ hm => ?_⟩
    rw [List.append_assoc]
    exact h _ (List.cons_ne_nil _ _) ((List.prefix_cons_inj s).2 hm)
  · rintro ⟨hstep, hrest⟩ m hm hbegins
    obtain ⟨s', m, rfl⟩ := List.exists_cons_of_ne_nil hm
    obtain ⟨rfl, hrest'⟩ := List.cons_prefix_cons.1 hbegins
    by_cases hnil : m = []
    · rw [hnil]
      exact hstep
    · have hplace := hrest m hnil hrest'
      rwa [List.append_assoc] at hplace

/-- What is found at a place after members are left out was found there before, and the place is spared. -/
theorem valueAt?_without : ∀ {l here : Location} {v w : Json}, valueAt? l (v.without places here) = some w ↔
    Spared places here l ∧ ∃ u, valueAt? l v = some u ∧ w = u.without places (here ++ l)
  | [], here, v, w => by simp [valueAt?, spared_nil, eq_comm]
  | .number i :: rest, here, v, w => by simp [valueAt?]
  | .name n :: rest, here, .null, w | .name n :: rest, here, .bool b, w | .name n :: rest, here, .int i, w
  | .name n :: rest, here, .double d, w | .name n :: rest, here, .string t, w
  | .name n :: rest, here, .array items, w => by simp [without, valueAt?]
  | .name n :: rest, here, .object members, w => by
    rw [spared_cons, without, valueAt?_name, get?_membersWithout, valueAt?_name]
    by_cases hplace : here ++ [.name n] ∈ places
    · simp [hplace]
    · rw [if_neg hplace]
      cases Members.get? n members with
      | none => simp
      | some v =>
        simp only [Option.map_some, Option.bind_some, valueAt?_without, hplace, not_false_eq_true, true_and,
          List.append_assoc, List.singleton_append]

/-- Members that are left out do not make an object of another value. -/
theorem members?_without : (v.without places here).members? = v.members?.map (membersWithout places here) := by
  cases v <;> rfl

theorem names_membersWithout : (Members.names (membersWithout places here members)).Sublist (Members.names members) := by
  induction members with
  | nil => exact List.Sublist.slnil
  | cons p rest ih =>
    obtain ⟨n, v⟩ := p
    unfold membersWithout
    split
    · exact ih.cons _
    · exact ih.cons_cons _

end Places

end Json

/-! ## Data of JSON values -/

namespace Members

/-- The names are different texts without halves of surrogate pairs. -/
def HasSoundNames (members : Members) : Prop :=
  (names members).Nodup ∧ ∀ n ∈ names members, n.hasSurrogate = false

end Members

section Data

variable {members : Members} {name : Text} {v : Json}

theorem Datum.ofJsonMembers_eq_map : ∀ members : Members,
    Datum.ofJsonMembers members = members.map fun p => (Key.text p.1, Datum.ofJson p.2)
  | [] => rfl
  | (name, v) :: rest => by rw [Datum.ofJsonMembers, ofJsonMembers_eq_map rest, List.map_cons]

theorem Datum.field?_ofJsonMembers :
    Datum.field? name (Datum.ofJsonMembers members) = (Members.get? name members).map Datum.ofJson := by
  induction members with
  | nil => rfl
  | cons p rest ih =>
    obtain ⟨n, v⟩ := p
    unfold Datum.field? at ih ⊢
    by_cases hn : n = name
    · simp [Datum.ofJsonMembers, Members.get?, hn]
    · have hkey : (Key.text name == Key.text n) = false := by simpa using Ne.symm hn
      rw [Datum.ofJsonMembers, List.lookup_cons, hkey, ih, Members.get?, if_neg hn]

theorem Key.shownText_eq_self {t : Text} (h : t.hasSurrogate = false) : Key.shownText t = t := by
  unfold Key.shownText
  induction t with
  | nil => rfl
  | cons c rest ih =>
    rw [Text.hasSurrogate, List.any_cons, Bool.or_eq_false_iff] at h
    rw [List.flatMap_cons, h.1, ih h.2]
    rfl

end Data

namespace Json

/-- The value may stand in the place of an optional text. -/
def isOptionalText : Json → Bool
  | .null | .string _ => true
  | _ => false

/-- The text at a place, if there is one. -/
def textAt? (l : Location) (v : Json) : Option Text :=
  match valueAt? l v with
  | some (.string t) => some t
  | _ => none

end Json

/-! ## Records -/

section Records

variable {s : Shape} {members : Members} {v : Json}

theorem readField_ofJson (v : Json) : readField (Datum.ofJson v) =
    if v.isOptionalText then .ok (Json.textAt? [] v) else .error .noText := by
  cases v <;> rfl

/-- The names of the members that may not stand in a record: its fields that are no optional texts, and all others. -/
def faultyNames (s : Shape) (members : Members) : List Text :=
  (s.fields.filter fun f => (Members.get? f members).any fun v => !v.isOptionalText) ++
    (Members.names members).filter (· ∉ s.fields)

theorem mem_faultyNames {f : Text} : f ∈ faultyNames s members ↔
    ∃ v, Members.get? f members = some v ∧ (f ∉ s.fields ∨ v.isOptionalText = false) := by
  have hnames : f ∈ Members.names members ↔ ∃ v, Members.get? f members = some v := by
    rw [← Option.isSome_iff_exists, Option.isSome_iff_ne_none, Ne, Members.get?_eq_none_iff, not_not]
  simp only [faultyNames, List.mem_append, List.mem_filter, Option.any_eq_true, Bool.not_eq_true', decide_eq_true_eq,
    hnames]
  grind

theorem nodup_faultyNames (hs : s.fields.Nodup) (h : (Members.names members).Nodup) :
    (faultyNames s members).Nodup := by
  refine List.Nodup.append (hs.filter _) (h.filter _) fun f hf hf' => ?_
  exact (of_decide_eq_true (List.mem_filter.1 hf').2) (List.mem_filter.1 hf).1

theorem map_location_filterMap {α : Type} {f : α → Option Issue} {p : α → Bool} {g : α → Location}
    {l : List α} (h : ∀ a ∈ l, (f a).map Issue.location = if p a then some (g a) else none) :
    (l.filterMap f).map Issue.location = (l.filter p).map g := by
  rw [List.map_filterMap, ← List.filterMap_eq_map, ← List.filterMap_eq_filter, List.filterMap_filterMap]
  refine List.filterMap_congr fun a ha => ?_
  rw [h a ha]
  cases hp : p a <;> simp [Option.guard, hp]

/-- The issues of an object in the place of a record are at its faulty names. -/
theorem locations_record (hs : s.isOpen = false) (h : members.HasSoundNames) :
    (recordIssues s (Datum.ofJson (.object members))).map Issue.location =
      (faultyNames s members).map fun f => [.name f] := by
  have hbroken : ((Datum.ofJsonMembers members).any fun e => e.1.isBroken) = false := by
    rw [Datum.ofJsonMembers_eq_map, List.any_map, List.any_eq_false]
    intro p hp
    simpa [Key.isBroken] using h.2 p.1 (List.mem_map_of_mem hp)
  have hfields : ((s.fields.filterMap (fieldIssue? (Datum.ofJsonMembers members))).map Issue.location) =
      (s.fields.filter fun f => (Members.get? f members).any fun v => !v.isOptionalText).map fun f => [.name f] := by
    refine map_location_filterMap fun f _ => ?_
    rw [fieldIssue?, Datum.field?_ofJsonMembers]
    cases Members.get? f members with
    | none => rfl
    | some v =>
      simp only [Option.map_some, readField_ofJson, Option.any_some]
      by_cases hv : v.isOptionalText = true <;> simp [hv]
  have hkeys : ((Datum.ofJsonMembers members).filterMap fun e => keyIssue? s e.1).map Issue.location =
      ((Members.names members).filter (· ∉ s.fields)).map fun f => [.name f] := by
    rw [Datum.ofJsonMembers_eq_map, List.filterMap_map, Members.names, List.filter_map, List.map_map]
    refine map_location_filterMap fun p hp => ?_
    have hsound := h.2 p.1 (List.mem_map_of_mem hp)
    by_cases hfield : p.1 ∈ s.fields <;>
      simp [keyIssue?, hs, hfield, Key.step, Key.shownText_eq_self hsound]
  rw [Datum.ofJson, recordIssues, hbroken, if_neg Bool.false_ne_true, List.map_append, hfields, hkeys, faultyNames,
    List.map_append]

end Records

/-! ## Places at fault -/

namespace Config

open Json

/-- The tool types, and the fields of each override, are different texts without halves of surrogate pairs. -/
def HasSoundNames (d : Json) : Prop :=
  ∀ l members, (l = [.name toolsName] ∨ ∃ type, l = [.name toolsName, .name type]) →
    valueAt? l d = some (.object members) → Members.HasSoundNames members

/-- The value may not stand at the place: no object in the place of the overrides or of one of them, a field that an
override does not have, or a value that is no optional text. -/
inductive Misplaced (v : Json) : Location → Prop
  | tools : v.members? = none → Misplaced v [.name toolsName]
  | entry {type : Text} : v.members? = none → Misplaced v [.name toolsName, .name type]
  | field {type name : Text} : (name ∉ Override.shape.fields ∨ v.isOptionalText = false) →
    Misplaced v [.name toolsName, .name type, .name name]

/-- The places at fault in one entry of the overrides. -/
def entryPlaces (p : Text × Json) : List Location :=
  match p.2.members? with
  | some fields => (faultyNames Override.shape fields).map fun f => [.name toolsName, .name p.1, .name f]
  | none => [[.name toolsName, .name p.1]]

/-- The places at fault in the overrides. -/
def toolsPlaces (v : Json) : List Location :=
  match v.members? with
  | some tools => tools.flatMap entryPlaces
  | none => [[.name toolsName]]

section Places

variable {members ts fs : Members} {v w : Json} {l m : Location} {p : Text × Json}

theorem members?_eq_some_iff : v.members? = some members ↔ v = .object members := by
  cases v <;> simp [members?]

theorem valueAt?_tools (members : Members) (l : Location) :
    valueAt? (.name toolsName :: l) (.object members) = (Members.get? toolsName members).bind (valueAt? l) := rfl

theorem HasSoundNames.tools (h : HasSoundNames (.object members))
    (htools : Members.get? toolsName members = some (.object ts)) : Members.HasSoundNames ts :=
  h _ ts (.inl rfl) (by rw [valueAt?_tools, htools]; rfl)

theorem HasSoundNames.fields (h : HasSoundNames (.object members))
    (htools : Members.get? toolsName members = some (.object ts)) (hp : p ∈ ts) (hfields : p.2 = .object fs) :
    Members.HasSoundNames fs := by
  have hget : Members.get? p.1 ts = some p.2 := Members.get?_of_mem (h.tools htools).1 hp
  refine h _ fs (.inr ⟨p.1, rfl⟩) ?_
  rw [valueAt?_tools, htools, Option.bind_some, valueAt?_name, hget, hfields]
  rfl

theorem locations_noRecord (s : Shape) (h : v.members? = none) :
    (recordIssues s (Datum.ofJson v)).map Issue.location = [[]] := by
  cases v with
  | object members => cases h
  | _ => rfl

theorem locations_entry (hname : p.1.hasSurrogate = false)
    (hfields : ∀ fields, p.2 = .object fields → Members.HasSoundNames fields) :
    (entryIssues (Key.text p.1, Datum.ofJson p.2)).map Issue.location = entryPlaces p := by
  have hunder : ∀ is : List Issue, (is.map (Issue.under [.name toolsName, .name p.1])).map Issue.location =
      (is.map Issue.location).map ([.name toolsName, .name p.1] ++ ·) := by
    intro is
    simp [Issue.under]
  rw [entryIssues, typeIssue?, readType]
  simp only [Option.toList_none, List.nil_append, Key.step, Key.shownText_eq_self hname, hunder, entryPlaces]
  cases hv : p.2.members? with
  | none =>
    rw [locations_noRecord _ hv]
    rfl
  | some fields =>
    have hobject := members?_eq_some_iff.1 hv
    rw [hobject, locations_record rfl (hfields fields hobject), List.map_map]
    rfl

/-- **The issues of an object are at the places at fault in its overrides.** -/
theorem locations_issues (h : HasSoundNames (.object members)) :
    (issues (Datum.ofJson (.object members))).map Issue.location =
      (Members.get? toolsName members).elim [] toolsPlaces := by
  rw [Datum.ofJson, issues, Datum.field?_ofJsonMembers]
  cases htools : Members.get? toolsName members with
  | none => rfl
  | some v =>
    rw [Option.map_some, Option.elim_some, toolsPlaces]
    cases hv : v.members? with
    | none =>
      cases v with
      | object tools => cases hv
      | _ => rfl
    | some tools =>
      obtain rfl := members?_eq_some_iff.1 hv
      simp only [Datum.ofJson, toolsIssues, Datum.ofJsonMembers_eq_map, List.flatMap_map, List.map_flatMap]
      refine List.flatMap_congr fun p hp => ?_
      exact locations_entry ((h.tools htools).2 p.1 (List.mem_map_of_mem hp)) fun fields => h.fields htools hp

theorem mem_entryPlaces : l ∈ entryPlaces p ↔
    ∃ r v, l = .name toolsName :: .name p.1 :: r ∧ valueAt? r p.2 = some v ∧ Misplaced v l := by
  rw [entryPlaces]
  cases hp : p.2.members? with
  | none =>
    rw [List.mem_singleton]
    constructor
    · rintro rfl
      exact ⟨[], p.2, rfl, rfl, .entry hp⟩
    · rintro ⟨r, v, rfl, hv, -⟩
      by_cases hr : r = []
      · rw [hr]
      · rw [valueAt?_of_not_object hp hr] at hv
        cases hv
  | some fs =>
    have hobject := members?_eq_some_iff.1 hp
    have hvalue : ∀ f, valueAt? [.name f] p.2 = Members.get? f fs := by
      intro f
      rw [hobject, valueAt?_name]
      exact Option.bind_fun_some _
    simp only [List.mem_map, mem_faultyNames]
    constructor
    · rintro ⟨f, ⟨v, hv, hfault⟩, rfl⟩
      exact ⟨[.name f], v, rfl, (hvalue f).trans hv, .field hfault⟩
    · rintro ⟨r, v, rfl, hv, hmisplaced⟩
      cases hmisplaced with
      | entry hnone =>
        cases hv
        rw [hp] at hnone
        cases hnone
      | field hfault => exact ⟨_, ⟨v, (hvalue _).symm.trans hv, hfault⟩, rfl⟩

theorem mem_toolsPlaces (h : ∀ ts, v = .object ts → (Members.names ts).Nodup) : l ∈ toolsPlaces v ↔
    ∃ r w, l = .name toolsName :: r ∧ valueAt? r v = some w ∧ Misplaced w l := by
  rw [toolsPlaces]
  cases hv : v.members? with
  | none =>
    rw [List.mem_singleton]
    constructor
    · rintro rfl
      exact ⟨[], v, rfl, rfl, .tools hv⟩
    · rintro ⟨r, w, rfl, hw, -⟩
      by_cases hr : r = []
      · rw [hr]
      · rw [valueAt?_of_not_object hv hr] at hw
        cases hw
  | some ts =>
    obtain rfl := members?_eq_some_iff.1 hv
    simp only [List.mem_flatMap, mem_entryPlaces]
    constructor
    · rintro ⟨p, hp, r, w, rfl, hw, hmisplaced⟩
      refine ⟨.name p.1 :: r, w, rfl, ?_, hmisplaced⟩
      rw [valueAt?_name, Members.get?_of_mem (h ts rfl) hp]
      exact hw
    · rintro ⟨r, w, rfl, hw, hmisplaced⟩
      have inside : ∀ type r, valueAt? (.name type :: r) (.object ts) = some w → ∃ u, (type, u) ∈ ts ∧
          valueAt? r u = some w := by
        intro type r hr
        obtain ⟨u, hu, hr⟩ := Option.bind_eq_some_iff.1 hr
        exact ⟨u, Members.mem_of_get? hu, hr⟩
      cases hmisplaced with
      | tools hnone =>
        cases hw
        cases hnone
      | entry hnone =>
        obtain ⟨u, hu, hr⟩ := inside _ _ hw
        exact ⟨_, hu, [], w, rfl, hr, .entry hnone⟩
      | field hfault =>
        obtain ⟨u, hu, hr⟩ := inside _ _ hw
        exact ⟨_, hu, _, w, rfl, hr, .field hfault⟩

theorem nodup_entryPlaces (h : ∀ fs, p.2 = .object fs → (Members.names fs).Nodup) : (entryPlaces p).Nodup := by
  rw [entryPlaces]
  cases hp : p.2.members? with
  | none => exact List.nodup_singleton _
  | some fs =>
    refine (nodup_faultyNames (by decide) (h fs (members?_eq_some_iff.1 hp))).map fun f g hfg => ?_
    simpa using hfg

/-- The place of an entry tells which entry it is. -/
theorem disjoint_entryPlaces {q : Text × Json} (h : p.1 ≠ q.1) : List.Disjoint (entryPlaces p) (entryPlaces q) := by
  intro l hp hq
  obtain ⟨r, v, rfl, -, -⟩ := mem_entryPlaces.1 hp
  obtain ⟨r', v', hl, -, -⟩ := mem_entryPlaces.1 hq
  simp only [List.cons.injEq, Step.name.injEq, true_and] at hl
  exact h hl.1

theorem nodup_toolsPlaces (h : ∀ ts, v = .object ts → (Members.names ts).Nodup ∧
    ∀ p ∈ ts, ∀ fs, p.2 = .object fs → (Members.names fs).Nodup) : (toolsPlaces v).Nodup := by
  rw [toolsPlaces]
  cases hv : v.members? with
  | none => exact List.nodup_singleton _
  | some ts =>
    obtain ⟨hnames, hfields⟩ := h ts (members?_eq_some_iff.1 hv)
    refine List.nodup_flatMap.2 ⟨fun p hp => nodup_entryPlaces (hfields p hp), ?_⟩
    exact (List.pairwise_map.1 hnames).imp disjoint_entryPlaces

end Places

/-! ## The smallest repair -/

section Repair

variable {members : Members} {d v w : Json} {l m : Location} {places : List Location}

/-- The places of the issues of a value. -/
def locations (d : Json) : List Location := (issues (Datum.ofJson d)).map Issue.location

/-- **The issues of an object name exactly the places whose values may not stand there.** -/
theorem mem_locations_iff (h : HasSoundNames (.object members)) : l ∈ locations (.object members) ↔
    ∃ v, valueAt? l (.object members) = some v ∧ Misplaced v l := by
  have hmisplaced : ∀ v, Misplaced v l → ∃ r, l = .name toolsName :: r := by
    rintro v (_ | _ | _) <;> exact ⟨_, rfl⟩
  rw [locations, locations_issues h]
  cases htools : Members.get? toolsName members with
  | none =>
    refine iff_of_false List.not_mem_nil ?_
    rintro ⟨v, hv, hplace⟩
    obtain ⟨r, rfl⟩ := hmisplaced v hplace
    rw [valueAt?_tools, htools] at hv
    cases hv
  | some u =>
    rw [Option.elim_some, mem_toolsPlaces fun ts hts => (h.tools (hts ▸ htools)).1]
    constructor
    · rintro ⟨r, v, rfl, hv, hplace⟩
      exact ⟨v, by rw [valueAt?_tools, htools, Option.bind_some, hv], hplace⟩
    · rintro ⟨v, hv, hplace⟩
      obtain ⟨r, rfl⟩ := hmisplaced v hplace
      rw [valueAt?_tools, htools, Option.bind_some] at hv
      exact ⟨r, v, rfl, hv, hplace⟩

theorem nodup_locations (h : HasSoundNames (.object members)) : (locations (.object members)).Nodup := by
  rw [locations, locations_issues h]
  cases htools : Members.get? toolsName members with
  | none => exact List.nodup_nil
  | some u =>
    refine nodup_toolsPlaces fun ts hts => ?_
    subst hts
    exact ⟨(h.tools htools).1, fun p hp fs hfs => (h.fields htools hp hfs).1⟩

/-- No misplaced value stands inside another. -/
theorem Misplaced.eq_of_prefix (hv : Misplaced v l) (hw : Misplaced w m) (hvalue : valueAt? l d = some v)
    (hvalue' : valueAt? m d = some w) (hbegins : l <+: m) : l = m := by
  obtain ⟨r, rfl⟩ := hbegins
  rw [valueAt?_append, hvalue, Option.bind_some] at hvalue'
  have hnil : v.members? = none → r = [] := by
    intro hnone
    by_contra hr
    rw [valueAt?_of_not_object hnone hr] at hvalue'
    cases hvalue'
  cases hv with
  | tools hnone | entry hnone => rw [hnil hnone, List.append_nil]
  | field hfault =>
    cases hw
    rfl

/-- What stands at the place is at fault as much as before members inside it are left out. -/
theorem misplaced_without : Misplaced (v.without places m) l ↔ Misplaced v l := by
  have hmembers : (v.without places m).members? = none ↔ v.members? = none := by
    rw [members?_without, Option.map_eq_none_iff]
  have htext : (v.without places m).isOptionalText = v.isOptionalText := by
    cases v <;> rfl
  constructor
  · rintro (h | h | h)
    · exact .tools (hmembers.1 h)
    · exact .entry (hmembers.1 h)
    · exact .field (htext ▸ h)
  · rintro (h | h | h)
    · exact .tools (hmembers.2 h)
    · exact .entry (hmembers.2 h)
    · exact .field (htext.symm ▸ h)

theorem HasSoundNames.without (h : HasSoundNames d) (places : List Location) :
    HasSoundNames (d.without places []) := by
  intro l members hl hmembers
  obtain ⟨-, u, hu, hwithout⟩ := valueAt?_without.1 hmembers
  cases u with
  | object ms =>
    obtain ⟨hnodup, hsound⟩ := h l ms hl hu
    cases hwithout
    exact ⟨hnodup.sublist names_membersWithout, fun n hn => hsound n (names_membersWithout.subset hn)⟩
  | _ => cases hwithout

/-- **Without some members, the places at fault are those that are spared.** -/
theorem mem_locations_without (h : HasSoundNames (.object members)) :
    l ∈ locations ((Json.object members).without places []) ↔
      l ∈ locations (.object members) ∧ Spared places [] l := by
  have hwithout : l ∈ locations ((Json.object members).without places []) ↔ _ := mem_locations_iff (h.without places)
  rw [hwithout, mem_locations_iff h]
  constructor
  · rintro ⟨w, hw, hplace⟩
    obtain ⟨hspared, u, hu, rfl⟩ := (valueAt?_without (v := .object members)).1 hw
    exact ⟨⟨u, hu, misplaced_without.1 hplace⟩, hspared⟩
  · rintro ⟨⟨v, hv, hplace⟩, hspared⟩
    exact ⟨_, (valueAt?_without (v := .object members)).2 ⟨hspared, v, hv, rfl⟩, misplaced_without.2 hplace⟩

end Repair

/-! ## Overrides -/

/-- The overrides that an object gives, in order: the names and the descriptions that are texts. -/
def given (d : Json) : List (Text × Override) :=
  match valueAt? [.name toolsName] d with
  | some (.object tools) =>
    tools.map fun p => (p.1, ⟨textAt? [.name "name".toText] p.2, textAt? [.name "description".toText] p.2⟩)
  | _ => []

section Overrides

variable {members tools : Members} {v : Json} {places : List Location} {here l : Location} {t : Text}

theorem textAt?_eq_some_iff : textAt? l v = some t ↔ valueAt? l v = some (.string t) := by
  rw [textAt?]
  split <;> simp_all

theorem textAt?_name (n : Text) : textAt? [.name n] (.object members) = (Members.get? n members).bind (textAt? []) := by
  rw [textAt?, valueAt?_name]
  cases Members.get? n members <;> rfl

theorem textAt?_without :
    textAt? l (v.without places here) = some t ↔ Spared places here l ∧ textAt? l v = some t := by
  have hstring : ∀ {u : Json} {m : Location}, .string t = u.without places m ↔ u = .string t := by
    intro u m
    cases u <;> simp [Json.without, eq_comm]
  simp only [textAt?_eq_some_iff, valueAt?_without, hstring, exists_eq_right]

theorem override_ofJson (v : Json) : Override.ofDatum (Datum.ofJson v) =
    ⟨textAt? [.name "name".toText] v, textAt? [.name "description".toText] v⟩ := by
  have hfield : ∀ n members, fieldText n (Datum.ofJsonMembers members) = textAt? [.name n] (.object members) := by
    intro n members
    rw [fieldText, Datum.field?_ofJsonMembers, textAt?_name]
    cases Members.get? n members with
    | none => rfl
    | some u => cases u <;> rfl
  cases v with
  | object members => exact congrArg₂ Override.mk (hfield _ members) (hfield _ members)
  | _ => rfl

theorem putOverride_of_notMem {type : Text} {o : Override} : ∀ {os : List (Text × Override)},
    type ∉ os.map Prod.fst → putOverride type o os = os ++ [(type, o)]
  | [], _ => rfl
  | (type', o') :: rest, h => by
    rw [List.map_cons, List.mem_cons, not_or] at h
    rw [putOverride, if_neg (Ne.symm h.1), putOverride_of_notMem h.2]
    rfl

/-- Different types have their overrides in order. -/
theorem foldl_addEntry {es : List (Text × Datum)} {os : List (Text × Override)}
    (h : ((os.map Prod.fst) ++ es.map Prod.fst).Nodup) :
    (es.map fun e => (Key.text e.1, e.2)).foldl addEntry os = os ++ es.map fun e => (e.1, Override.ofDatum e.2) := by
  induction es generalizing os with
  | nil => simp
  | cons e es ih =>
    have hfresh : e.1 ∉ os.map Prod.fst := fun hmem =>
      (List.nodup_append.1 h).2.2 _ hmem _ (List.mem_cons_self) rfl
    have hadd : addEntry os (Key.text e.1, e.2) = os ++ [(e.1, Override.ofDatum e.2)] := putOverride_of_notMem hfresh
    rw [List.map_cons, List.foldl_cons, hadd, ih (by simpa using h)]
    simp

/-- **The overrides of an object are those that it gives.** -/
theorem overridesOf_ofJson (h : HasSoundNames (.object members)) :
    overridesOf (Datum.ofJson (.object members)) = given (.object members) := by
  rw [Datum.ofJson, overridesOf, Datum.field?_ofJsonMembers, given, valueAt?_tools]
  cases htools : Members.get? toolsName members with
  | none => rfl
  | some u =>
    cases u with
    | object ts =>
      have hnodup : ((ts.map fun p => (p.1, Datum.ofJson p.2)).map Prod.fst).Nodup := by
        rw [List.map_map]
        exact (h.tools htools).1
      have hfold : _ = ([] : List (Text × Override)) ++ _ := foldl_addEntry hnodup
      simp only [Option.map_some, Datum.ofJson, Datum.ofJsonMembers_eq_map]
      rw [List.map_map] at hfold
      refine hfold.trans ?_
      simp only [List.nil_append, List.map_map]
      exact List.map_congr_left fun p _ => congrArg _ (override_ofJson p.2)
    | _ => rfl

theorem ofDatum_of_locations (h : HasSoundNames (.object members)) (hnone : locations (.object members) = []) :
    ofDatum (Datum.ofJson (.object members)) = .ok ⟨given (.object members)⟩ := by
  rw [locations, List.map_eq_nil_iff] at hnone
  rw [ofDatum, hnone, overridesOf_ofJson h]
  rfl

theorem ofDatum_of_fault {d : Json} (h : locations d ≠ []) :
    ofDatum (Datum.ofJson d) = .error (issues (Datum.ofJson d)) := by
  refine if_neg fun hempty => h ?_
  rw [locations, List.isEmpty_iff.1 hempty]
  rfl

/-- What is read of the members that are not left out is what was read of them before. -/
theorem map_membersWithout {α : Type} {f : Text × Json → α} : ∀ {ms : Members},
    (∀ p ∈ ms, f (p.1, p.2.without places (here ++ [.name p.1])) = f p) →
    (membersWithout places here ms).map f = (ms.filter fun p => here ++ [.name p.1] ∉ places).map f
  | [], _ => rfl
  | p :: ms, h => by
    have hrest := map_membersWithout fun q hq => h q (List.mem_cons_of_mem _ hq)
    by_cases hplace : here ++ [.name p.1] ∈ places
    · rw [membersWithout, if_pos hplace, List.filter_cons_of_neg (by simpa using hplace), hrest]
    · rw [membersWithout, if_neg hplace, List.filter_cons_of_pos (by simpa using hplace), List.map_cons, List.map_cons,
        hrest, h p List.mem_cons_self]

/-- A field that is a text is not at fault, so it is spared. -/
theorem textAt?_of_field (h : HasSoundNames (.object members)) {p : Text × Json} {n : Text}
    (htools : Members.get? toolsName members = some (.object tools)) (hp : p ∈ tools)
    (hn : n ∈ Override.shape.fields) :
    textAt? [.name n] (p.2.without (locations (.object members)) [.name toolsName, .name p.1]) =
      textAt? [.name n] p.2 := by
  refine Option.ext fun t => textAt?_without.trans (and_iff_right_of_imp fun ht => ?_)
  refine spared_cons.2 ⟨fun hplace => ?_, spared_nil _ _⟩
  obtain ⟨v, hv, hmisplaced⟩ := (mem_locations_iff h).1 hplace
  have hvalue : valueAt? [.name toolsName, .name p.1, .name n] (.object members) = valueAt? [.name n] p.2 := by
    rw [valueAt?_tools, htools, Option.bind_some, valueAt?_name, Members.get?_of_mem (h.tools htools).1 hp,
      Option.bind_some]
  obtain rfl : v = .string t :=
    Option.some.inj (hv.symm.trans (hvalue.trans (textAt?_eq_some_iff.1 ht)))
  cases hmisplaced with
  | field hfault => exact hfault.elim (fun hother => hother hn) Bool.noConfusion

/-- **Without the members at fault, all other overrides and fields are given as before.** -/
theorem given_without (h : HasSoundNames (.object members)) :
    given ((Json.object members).without (locations (.object members)) []) =
      (given (.object members)).filter fun o => [.name toolsName, .name o.1] ∉ locations (.object members) := by
  have hmem := mem_locations_iff (l := [.name toolsName]) h
  rw [Json.without, given, given, valueAt?_tools, valueAt?_tools, get?_membersWithout]
  cases htools : Members.get? toolsName members with
  | none => simp
  | some u =>
    rw [valueAt?_tools, htools] at hmem
    cases u with
    | object ts =>
      have hplace : [.name toolsName] ∉ locations (.object members) := by
        rintro hplace
        obtain ⟨v, hv, hmisplaced⟩ := hmem.1 hplace
        cases hv
        cases hmisplaced with
        | tools hnone => cases hnone
      simp only [List.nil_append, if_neg hplace, Option.map_some, Option.bind_some, valueAt?, Json.without]
      rw [map_membersWithout fun p hp => ?_, List.filter_map]
      · rfl
      · simp only [List.cons_append, List.nil_append, textAt?_of_field h htools hp (show "name".toText ∈ _ by decide),
          textAt?_of_field h htools hp (show "description".toText ∈ _ by decide)]
    | _ =>
      have hplace : [.name toolsName] ∈ locations (.object members) := hmem.2 ⟨_, rfl, .tools rfl⟩
      simp [hplace, valueAt?]

end Overrides

/-! ## What is written of a configuration -/

/-- An optional text as a value. -/
def textValue (t : Option Text) : Json := t.elim .null .string

/-- An override as an object of its fields. -/
def overrideValue (o : Override) : Json :=
  .object [("name".toText, textValue o.name), ("description".toText, textValue o.description)]

/-- The members of a configuration as data. -/
def toMembers (c : Config) : Members :=
  [(toolsName, .object (c.overrides.map fun o => (o.1, overrideValue o.2)))]

section Written

variable {c : Config}

theorem given_toMembers (c : Config) : given (.object c.toMembers) = c.overrides := by
  have hoverride : ∀ o : Override, Override.mk (textAt? [.name "name".toText] (overrideValue o))
      (textAt? [.name "description".toText] (overrideValue o)) = o := by
    rintro ⟨_ | name, _ | description⟩ <;> rfl
  have hgiven : given (.object c.toMembers) = (c.overrides.map fun o => (o.1, overrideValue o.2)).map fun p =>
      (p.1, ⟨textAt? [.name "name".toText] p.2, textAt? [.name "description".toText] p.2⟩) := rfl
  simp only [hgiven, List.map_map, Function.comp_def, hoverride, List.map_id']

/-- The written data of different types without halves of pairs has no places at fault. -/
theorem locations_toMembers (h : HasSoundNames (.object c.toMembers)) : locations (.object c.toMembers) = [] := by
  have hplaces : ∀ o : Text × Override, entryPlaces (o.1, overrideValue o.2) = [] := by
    rintro ⟨type, _ | name, _ | description⟩ <;> rfl
  have hlocations : locations (.object c.toMembers) =
      (c.overrides.map fun o => (o.1, overrideValue o.2)).flatMap entryPlaces := locations_issues h
  simp [hlocations, List.flatMap_map, hplaces]

theorem hasSoundNames_toMembers (hnodup : (c.overrides.map Prod.fst).Nodup)
    (hsound : ∀ t ∈ c.overrides.map Prod.fst, t.hasSurrogate = false) : HasSoundNames (.object c.toMembers) := by
  have hnames : Members.names (c.overrides.map fun o => (o.1, overrideValue o.2)) = c.overrides.map Prod.fst := by
    simp [Members.names]
  rintro l members (rfl | ⟨type, rfl⟩) hl
  · obtain rfl : _ = members := by simpa [toMembers, valueAt?, Members.get?] using hl
    exact ⟨hnames.symm ▸ hnodup, hnames.symm ▸ hsound⟩
  · obtain ⟨u, hu, hmembers⟩ := Option.bind_eq_some_iff.1
      (show (Members.get? type (c.overrides.map fun o => (o.1, overrideValue o.2))).bind (valueAt? []) = _ from hl)
    obtain ⟨o, -, ho⟩ := List.mem_map.1 (Members.mem_of_get? hu)
    cases ho
    cases hmembers
    have hfields : (["name".toText, "description".toText] : List Text).Nodup ∧
        ∀ n ∈ ["name".toText, "description".toText], n.hasSurrogate = false := by decide
    exact hfields

end Written

theorem types_given {members : Members} (h : HasSoundNames (.object members)) :
    ((given (.object members)).map Prod.fst).Nodup ∧
      ∀ t ∈ (given (.object members)).map Prod.fst, t.hasSurrogate = false := by
  rw [given, valueAt?_tools]
  cases htools : Members.get? toolsName members with
  | none => simp
  | some u =>
    cases u with
    | object ts => simpa [Members.HasSoundNames, Members.names, valueAt?, Function.comp_def] using h.tools htools
    | _ => simp [valueAt?]

/-- **The issues of an object are its smallest repair.** Either it is accepted, with the overrides that it gives, and what
is written of them is accepted as the same; or the issues name places at which there are values, none inside another,
and these are all the places whose values may not stand there. Without the members at all of them the object is
accepted, with all other overrides and fields as they were, and without the members at only some of them it is not.
Members that are not the overrides have no effect. -/
theorem ofDatum_object {members : Members} {d : Json} (hd : d = .object members) (h : HasSoundNames d) :
    ((∃ c, ofDatum (.ofJson d) = .ok c ∧ c.overrides = given d ∧ ofDatum (.ofJson (.object c.toMembers)) = .ok c) ∨
      ∃ faults places, ofDatum (.ofJson d) = .error faults ∧ places = faults.map Issue.location ∧ places ≠ [] ∧
        (∀ l, l ∈ places ↔ ∃ v, valueAt? l d = some v ∧ Misplaced v l) ∧
        places.Pairwise (fun l m => ¬ l <+: m ∧ ¬ m <+: l) ∧
        ofDatum (.ofJson (d.without places [])) =
          .ok ⟨(given d).filter fun o => [.name toolsName, .name o.1] ∉ places⟩ ∧
        ∀ fewer, fewer ⊆ places → ¬ places ⊆ fewer →
          ∃ faults', ofDatum (.ofJson (d.without fewer [])) = .error faults') ∧
    ∀ others, Members.get? toolsName others = Members.get? toolsName members →
      ofDatum (.ofJson (.object others)) = ofDatum (.ofJson d) := by
  subst hd
  refine ⟨?_, ?_⟩
  · by_cases hnone : locations (.object members) = []
    · obtain ⟨hnodup, hsound⟩ := types_given h
      have hwritten := hasSoundNames_toMembers (c := ⟨given (.object members)⟩) hnodup hsound
      refine .inl ⟨_, ofDatum_of_locations h hnone, rfl, ?_⟩
      rw [ofDatum_of_locations hwritten (locations_toMembers hwritten), given_toMembers]
    · have hmem := fun l => mem_locations_iff (l := l) h
      have hinside : ∀ l ∈ locations (.object members), ∀ m ∈ locations (.object members), l <+: m → l = m := by
        intro l hl m hm hbegins
        obtain ⟨v, hv, hmisplaced⟩ := (hmem l).1 hl
        obtain ⟨w, hw, hmisplaced'⟩ := (hmem m).1 hm
        exact hmisplaced.eq_of_prefix hmisplaced' hv hw hbegins
      refine .inr ⟨_, _, ofDatum_of_fault hnone, rfl, hnone, hmem, ?_, ?_, fun fewer hfewer hproper => ?_⟩
      · refine (nodup_locations h).pairwise_of_forall_ne fun l hl m hm hne => ⟨fun hbegins => ?_, fun hbegins => ?_⟩
        · exact hne (hinside l hl m hm hbegins)
        · exact hne (hinside m hm l hl hbegins).symm
      · have hrepaired : locations ((Json.object members).without (locations (.object members)) []) = [] := by
          refine List.eq_nil_iff_forall_not_mem.2 fun l hl => ?_
          obtain ⟨hplace, hspared⟩ := (mem_locations_without h).1 hl
          have hl : l ≠ [] := by
            obtain ⟨v, -, hmisplaced⟩ := (hmem l).1 hplace
            rintro rfl
            cases hmisplaced
          exact hspared l hl (List.prefix_refl l) hplace
        exact (ofDatum_of_locations (h.without _) hrepaired).trans (congrArg _ (congrArg Config.mk (given_without h)))
      · obtain ⟨l, hl, hleft⟩ : ∃ l ∈ locations (.object members), l ∉ fewer := by
          change ¬ locations (.object members) ⊆ fewer at hproper
          simpa only [List.subset_def, not_forall, exists_prop] using hproper
        refine ⟨_, ofDatum_of_fault (List.ne_nil_of_mem ((mem_locations_without h).2 ⟨hl, ?_⟩))⟩
        intro m _ hbegins hm
        exact hleft (hinside m (hfewer hm) l hl hbegins ▸ hm)
  · intro others hothers
    simp only [ofDatum, issues, overridesOf, Datum.ofJson, Datum.field?_ofJsonMembers, hothers]

/-- Of three overrides one is no object, and one has a name that is no text and a field that is not known. -/
theorem ofDatum_of_threeFaults : ∃ (d : Json) (a b c : Text) (places : List Location),
    a = "a".toText ∧ b = "b".toText ∧ c = "c".toText ∧
      d = .object [("version".toText, .int 2), (toolsName, .object [
        (a, .object [("x".toText, .null), ("name".toText, .int 1), ("description".toText, .string b)]),
        (b, .null), (c, .object [("name".toText, .string a)])])] ∧
      places = [[.name toolsName, .name a, .name "name".toText], [.name toolsName, .name a, .name "x".toText],
        [.name toolsName, .name b]] ∧
      (∃ faults, ofDatum (.ofJson d) = .error faults ∧ faults.map Issue.location = places) ∧
      ofDatum (.ofJson (d.without places [])) = .ok ⟨[(a, ⟨none, some b⟩), (c, ⟨some a, none⟩)]⟩ ∧
      ∀ fewer, fewer ⊆ places → ¬ places ⊆ fewer →
        ∃ faults, ofDatum (.ofJson (d.without fewer [])) = .error faults := by
  obtain ⟨members, hmembers⟩ : ∃ members : Members, members = [("version".toText, .int 2), (toolsName, .object [
    ("a".toText, .object [("x".toText, .null), ("name".toText, .int 1), ("description".toText, .string "b".toText)]),
    ("b".toText, .null), ("c".toText, .object [("name".toText, .string "a".toText)])])] := ⟨_, rfl⟩
  have hplaces : locations (.object members) = [[.name toolsName, .name "a".toText, .name "name".toText],
      [.name toolsName, .name "a".toText, .name "x".toText], [.name toolsName, .name "b".toText]] := by
    rw [hmembers]
    decide
  have hgiven : given (.object members) = [("a".toText, ⟨none, some "b".toText⟩), ("b".toText, ⟨none, none⟩),
      ("c".toText, ⟨some "a".toText, none⟩)] := by
    rw [hmembers]
    decide
  have hsound : HasSoundNames (.object members) := by
    rw [hmembers]
    rintro l ms (rfl | ⟨type, rfl⟩) hl
    · cases hl
      exact ⟨by decide, by decide⟩
    · obtain ⟨u, hu, hms⟩ := Option.bind_eq_some_iff.1 (show (Members.get? type _).bind (valueAt? []) = _ from hl)
      cases hms
      rcases List.mem_cons.1 (Members.mem_of_get? hu) with hentry | hmem
      · cases hentry
        exact ⟨by decide, by decide⟩
      · rcases List.mem_cons.1 hmem with hentry | hmem
        · cases hentry
        · cases List.mem_singleton.1 hmem
          exact ⟨by decide, by decide⟩
  obtain ⟨⟨c, hok, -⟩ | ⟨faults, places, hfaults, rfl, -, -, -, hrepaired, hfewer⟩, -⟩ :=
    ofDatum_object (d := .object members) rfl hsound
  · rw [ofDatum_of_fault (by rw [hplaces]; exact List.cons_ne_nil _ _)] at hok
    cases hok
  · have hissues : faults.map Issue.location = locations (.object members) := by
      rw [ofDatum_of_fault (by rw [hplaces]; exact List.cons_ne_nil _ _)] at hfaults
      cases hfaults
      rfl
    rw [hissues, hplaces] at hrepaired hfewer
    refine ⟨_, _, _, _, _, rfl, rfl, rfl, congrArg _ hmembers, rfl, ⟨faults, hfaults, hissues.trans hplaces⟩, ?_, hfewer⟩
    rw [hrepaired, hgiven]
    decide

end Config

end MonitorIntake
