import MonitorIntake.Json.Value

/-!
# What occurs in a value

* `Json.induction`: a property of values holds of all of them when it holds of a container whose elements have it. It is
  the induction of every proof about values here.
* `Occurs u v`: the value `u` is `v` or stands somewhere inside it, at any depth; `Mentions t v`: the text `t` is one of
  the strings of `v` or the name of a member of an object in it.
* A value is finite iff no number that occurs in it is infinite or not a number (`isFinite_iff`).
-/

namespace MonitorIntake.Json

/-! ## Induction over values -/

theorem sizeOf_lt_of_member {k : Text} {v : Json} {members : List (Text × Json)} (h : (k, v) ∈ members) :
    sizeOf v < sizeOf (Json.object members) := by
  have h₁ := List.sizeOf_lt_of_mem h
  have h₂ : sizeOf (k, v) = 1 + sizeOf k + sizeOf v := rfl
  have h₃ : sizeOf (Json.object members) = 1 + sizeOf members := by simp
  omega

/-- Induction over values, with the hypothesis for every element of a container. -/
@[elab_as_elim, induction_eliminator]
theorem induction {P : Json → Prop} (null : P .null) (bool : ∀ b, P (.bool b)) (int : ∀ i, P (.int i))
    (double : ∀ d, P (.double d)) (string : ∀ t, P (.string t))
    (array : ∀ items, (∀ v ∈ items, P v) → P (.array items))
    (object : ∀ members, (∀ k v, (k, v) ∈ members → P v) → P (.object members)) : ∀ v, P v
  | .null => null
  | .bool b => bool b
  | .int i => int i
  | .double d => double d
  | .string t => string t
  | .array items => array items fun v _ => induction null bool int double string array object v
  | .object members => object members fun _ v _ => induction null bool int double string array object v
termination_by v => sizeOf v
decreasing_by
  · have := List.sizeOf_lt_of_mem ‹v ∈ items›
    simp only [Json.array.sizeOf_spec]
    omega
  · exact sizeOf_lt_of_member ‹_›

/-! ## Occurrence -/

/-- The value `u` is the given one or stands somewhere inside it. -/
inductive Occurs (u : Json) : Json → Prop
  | self : Occurs u u
  | item {v : Json} {items : List Json} : v ∈ items → Occurs u v → Occurs u (.array items)
  | member {k : Text} {v : Json} {members : List (Text × Json)} :
      (k, v) ∈ members → Occurs u v → Occurs u (.object members)

/-- The text is one of the strings of the value or of the names of its members, at any depth. -/
def Mentions (t : Text) (v : Json) : Prop :=
  Occurs (.string t) v ∨ ∃ members u, Occurs (.object members) v ∧ (t, u) ∈ members

theorem occurs_array {u : Json} {items : List Json} :
    Occurs u (.array items) ↔ u = .array items ∨ ∃ v ∈ items, Occurs u v := by
  constructor
  · intro h
    cases h with
    | self => exact .inl rfl
    | item hv hu => exact .inr ⟨_, hv, hu⟩
  · rintro (rfl | ⟨v, hv, hu⟩)
    · exact .self
    · exact .item hv hu

theorem occurs_object {u : Json} {members : List (Text × Json)} :
    Occurs u (.object members) ↔ u = .object members ∨ ∃ k v, (k, v) ∈ members ∧ Occurs u v := by
  constructor
  · intro h
    cases h with
    | self => exact .inl rfl
    | member hv hu => exact .inr ⟨_, _, hv, hu⟩
  · rintro (rfl | ⟨k, v, hv, hu⟩)
    · exact .self
    · exact .member hv hu

/-! ## Texts that are mentioned -/

theorem mentions_string {s t : Text} : Mentions t (.string s) ↔ t = s := by
  constructor
  · rintro (h | ⟨members, u, h, -⟩)
    · cases h
      rfl
    · cases h
  · rintro rfl
    exact .inl .self

theorem mentions_array {t : Text} {items : List Json} : Mentions t (.array items) ↔ ∃ v ∈ items, Mentions t v := by
  simp only [Mentions, occurs_array, reduceCtorEq, false_or]
  grind

theorem mentions_object {t : Text} {members : List (Text × Json)} :
    Mentions t (.object members) ↔ ∃ p ∈ members, t = p.1 ∨ Mentions t p.2 := by
  constructor
  · rintro (h | ⟨ms, u, h, hmem⟩)
    · cases h with
      | member hp h => exact ⟨_, hp, .inr (.inl h)⟩
    · cases h with
      | self => exact ⟨_, hmem, .inl rfl⟩
      | member hp h => exact ⟨_, hp, .inr (.inr ⟨ms, u, h, hmem⟩)⟩
  · rintro ⟨⟨name, v⟩, hp, rfl | h | ⟨ms, u, h, hmem⟩⟩
    · exact .inr ⟨members, v, .self, hp⟩
    · exact .inl (.member hp h)
    · exact .inr ⟨ms, u, .member hp h, hmem⟩

/-! ## Finite values -/

theorem itemsFinite_iff : ∀ {items : List Json}, itemsFinite items = true ↔ ∀ v ∈ items, v.isFinite = true
  | [] => by simp [itemsFinite]
  | v :: rest => by simp [itemsFinite, @itemsFinite_iff rest]

theorem membersFinite_iff : ∀ {members : List (Text × Json)},
    membersFinite members = true ↔ ∀ k v, (k, v) ∈ members → v.isFinite = true
  | [] => by simp [membersFinite]
  | (k, v) :: rest => by
    simp only [membersFinite, Bool.and_eq_true, @membersFinite_iff rest, List.mem_cons, Prod.mk.injEq]
    constructor
    · rintro ⟨hv, hrest⟩ k' v' (⟨rfl, rfl⟩ | h)
      · exact hv
      · exact hrest k' v' h
    · exact fun h => ⟨h k v (.inl ⟨rfl, rfl⟩), fun k' v' h' => h k' v' (.inr h')⟩

/-- **A value is finite iff every number that occurs in it is.** -/
theorem isFinite_iff {v : Json} : v.isFinite = true ↔ ∀ d, Occurs (.double d) v → d.isFinite = true := by
  induction v with
  | double d =>
    constructor
    · intro h d' hd
      cases hd
      exact h
    · exact fun h => h d .self
  | array items ih =>
    simp only [isFinite, itemsFinite_iff, occurs_array, reduceCtorEq, false_or]
    constructor
    · rintro h d ⟨v, hv, hd⟩
      exact (ih v hv).1 (h v hv) d hd
    · exact fun h v hv => (ih v hv).2 fun d hd => h d ⟨v, hv, hd⟩
  | object members ih =>
    simp only [isFinite, membersFinite_iff, occurs_object, reduceCtorEq, false_or]
    constructor
    · rintro h d ⟨k, v, hv, hd⟩
      exact (ih k v hv).1 (h k v hv) d hd
    · exact fun h k v hv => (ih k v hv).2 fun d hd => h d ⟨k, v, hv, hd⟩
  | _ =>
    refine ⟨fun _ d hd => ?_, fun _ => rfl⟩
    cases hd

/-- A number that JSON lacks occurs in the value: an infinity, or what is not a number. -/
def HasNonFinite (v : Json) : Prop := ∃ d, Occurs (.double d) v ∧ (d = .nan ∨ ∃ negative, d = .infinite negative)

theorem isFinite_eq_false_iff {v : Json} : v.isFinite = false ↔ HasNonFinite v := by
  rw [← Bool.not_eq_true, isFinite_iff]
  constructor
  · intro h
    obtain ⟨d, hd⟩ := Classical.not_forall.1 h
    obtain ⟨hocc, hfin⟩ := Classical.not_imp.1 hd
    refine ⟨d, hocc, ?_⟩
    cases d with
    | nan => exact .inl rfl
    | infinite negative => exact .inr ⟨negative, rfl⟩
    | finite negative m => exact absurd rfl hfin
  · rintro ⟨d, hd, rfl | ⟨negative, rfl⟩⟩ h
    · cases h _ hd
    · cases h _ hd

end MonitorIntake.Json
