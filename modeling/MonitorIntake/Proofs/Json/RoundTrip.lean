import MonitorIntake.Proofs.Json.Occurrence
import MonitorIntake.Proofs.Json.Reading
import MonitorIntake.Proofs.Json.WrittenNumbers
import MonitorIntake.Proofs.Json.WrittenStrings

/-!
# Written values read back

* **What is written reads back up to surrogate pairs** (`read_write`, `read_compact`): a value that could have been read
  is read from its own text as itself, with the surrogate pairs of all its strings and names joined (`Json.joined`). The
  text is strict JSON if the value is finite (`value_write`).
* **The boundary** (`joined_eq_self_iff`): this is the value itself iff no string and no name in it holds such a pair.

A value that could have been read (`Fits`) keeps to the limits of the reader, and its objects repeat no name.
-/

namespace MonitorIntake.Json

/-! ## Joined values -/

mutual

/-- The value with the surrogate pairs of its strings and names joined. Names that become the same are one. -/
def joined : Json → Json
  | .string t => .string t.joinPairs
  | .array items => .array (joinedItems items)
  | .object members => .object (Members.ofPairs (joinedMembers members))
  | v => v

/-- Items with their pairs joined. -/
def joinedItems : List Json → List Json
  | [] => []
  | v :: rest => v.joined :: joinedItems rest

/-- Names and values with their pairs joined. -/
def joinedMembers : List (Text × Json) → List (Text × Json)
  | [] => []
  | (k, v) :: rest => (k.joinPairs, v.joined) :: joinedMembers rest

end

theorem joinedItems_eq_map : ∀ items : List Json, joinedItems items = items.map joined
  | [] => rfl
  | v :: rest => by rw [joinedItems, joinedItems_eq_map rest, List.map_cons]

theorem joinedMembers_eq_map : ∀ members : List (Text × Json),
    joinedMembers members = members.map fun p => (p.1.joinPairs, p.2.joined)
  | [] => rfl
  | (k, v) :: rest => by rw [joinedMembers, joinedMembers_eq_map rest, List.map_cons]

/-! ## Values that could have been read -/

/-- The value may stand where `k` containers are open: it is within the limits, and no object in it repeats a name. -/
inductive Fits : Nat → Json → Prop
  | null {k : Nat} : Fits k .null
  | bool {k : Nat} {b : Bool} : Fits k (.bool b)
  | int {k : Nat} {i : Int} : (Text.ofNat i.natAbs).length ≤ digitLimit → Fits k (.int i)
  | double {k : Nat} {d : Double} : Fits k (.double d)
  | string {k : Nat} {t : Text} : Fits k (.string t)
  | array {k : Nat} {items : List Json} :
      k + 1 ≤ nestingLimit → (∀ v ∈ items, Fits (k + 1) v) → Fits k (.array items)
  | object {k : Nat} {members : Members} : k + 1 ≤ nestingLimit → (Members.names members).Nodup →
      (∀ p ∈ members, Fits (k + 1) p.2) → Fits k (.object members)

theorem fits_word {k : Nat} {w : Text} {v : Json} (h : (w, v) ∈ words) : Fits k v := by
  simp only [words, List.mem_cons, Prod.mk.injEq, List.not_mem_nil, or_false] at h
  rcases h with ⟨-, rfl⟩ | ⟨-, rfl⟩ | ⟨-, rfl⟩ | ⟨-, rfl⟩ | ⟨-, rfl⟩ | ⟨-, rfl⟩
  · exact .null
  · exact .bool
  · exact .bool
  all_goals exact .double

/-- An integer of so many digits has no more of them when it is written again. -/
theorem Number.length_ofNat_le {t u : Text} {n : Numeral} (h : Number t n u) :
    (Text.ofNat (Text.readDigits n.whole)).length ≤ n.whole.length := by
  have whole : ∀ {t w u : Text}, Whole t w u → (Text.ofNat (Text.readDigits w)).length ≤ w.length := by
    intro t w u hw
    obtain ⟨-, hne, hdigits⟩ := hw.digits
    exact (Text.length_ofNat_le_iff (List.length_pos_iff.2 hne)).2 (Text.readDigits_lt hdigits)
  cases h with
  | positive hw _ _ => exact whole hw
  | negative hw _ _ => exact whole hw

theorem fits_number {k : Nat} {t u : Text} {n : Numeral} (h : Number t n u)
    (hlimit : n.IsInteger → n.whole.length ≤ digitLimit) : Fits k n.denotation := by
  unfold Numeral.denotation
  by_cases hi : n.IsInteger
  · rw [if_pos hi]
    have habs : (if n.negative then -(Text.readDigits n.whole : Int) else Text.readDigits n.whole).natAbs =
        Text.readDigits n.whole := by
      split <;> omega
    refine .int ?_
    rw [habs]
    exact Nat.le_trans h.length_ofNat_le (hlimit hi)
  · rw [if_neg hi]
    exact .double

theorem fits_merged {k : Nat} {ps ms : Members} (hk : k + 1 ≤ nestingLimit) (h : ∀ p ∈ ps, Fits (k + 1) p.2)
    (hm : Members.Merged ps ms) : Fits k (.object ms) := by
  rw [Members.merged_iff.1 hm]
  exact .object hk (Members.nodup_names_ofPairs ps) fun p hp => h p (Members.mem_of_mem_ofPairs hp)

mutual

/-- **What the grammar denotes within the limits could have been read.** -/
theorem Value.fits : ∀ {k : Nat} {t : Text} {v : Json} {u : Text}, Value .bounded k t v u → Fits k v
  | _, _, _, _, .word h => fits_word h
  | _, _, _, _, .number hn hd => fits_number hn hd
  | _, _, _, _, .string _ => .string
  | _, _, _, _, .emptyArray hk _ => .array hk fun _ h => nomatch h
  | _, _, _, _, .array hk _ h => .array hk (Items.fits h)
  | _, _, _, _, .emptyObject hk _ => .object hk List.nodup_nil fun _ h => nomatch h
  | _, _, _, _, .object hk _ h hm => fits_merged hk (Pairs.fits h) hm

theorem Items.fits : ∀ {k : Nat} {t : Text} {vs : List Json} {u : Text},
    Items .bounded k t vs u → ∀ v ∈ vs, Fits k v
  | _, _, _, _, .last hv _ => List.forall_mem_singleton.2 (Value.fits hv)
  | _, _, _, _, .more hv _ _ h => List.forall_mem_cons.2 ⟨Value.fits hv, Items.fits h⟩

theorem Pairs.fits : ∀ {k : Nat} {t : Text} {ps : Members} {u : Text},
    Pairs .bounded k t ps u → ∀ p ∈ ps, Fits k p.2
  | _, _, _, _, .last _ hv _ => List.forall_mem_singleton.2 (Value.fits hv)
  | _, _, _, _, .more _ hv _ _ h => List.forall_mem_cons.2 ⟨Value.fits hv, Pairs.fits h⟩

end

theorem fits_of_read {t : Text} {v : Json} (h : read t = .ok v) : Fits 0 v := by
  obtain ⟨t₁, u, -, hv, -⟩ := read_eq_ok_iff.1 h
  exact hv.fits

/-! ## Written values -/

theorem mem_strictWords : ("null".toText, .null) ∈ strictWords ∧ ("true".toText, .bool true) ∈ strictWords ∧
    ("false".toText, .bool false) ∈ strictWords := by
  simp [strictWords]

/-- The doubles without digits are written as words. -/
theorem mem_words_of_not_finite {l : Layout} {d : Double} (h : d.isFinite = false) :
    (d.write l numberWords, .double d) ∈ Dialect.bounded.words := by
  refine List.mem_append_right _ ?_
  cases d with
  | finite negative m => cases h
  | nan => exact List.mem_cons_self
  | infinite negative => cases negative <;> simp [Double.write, numberWords, String.toText]

section Scalars

variable {D : Dialect} {k : Nat}

theorem Dialect.Le.word {w t : Text} {v : Json} (hD : Dialect.strict.Le D) (h : (w, v) ∈ strictWords) :
    Value D k (w ++ t) v t :=
  .word (hD.words h)

theorem value_ofInt (hD : Dialect.strict.Le D) {i : Int} (h : (Text.ofNat i.natAbs).length ≤ digitLimit) (u : Text) :
    Value D k (Text.ofInt i ++ u) (.int i) u := by
  obtain ⟨n, hn, -, hwhole, hdenotes⟩ := number_ofInt i u
  exact hdenotes ▸ .number hn fun _ => hD.digits _ (hwhole ▸ h)

/-- A double is written in digits or, if it has none, as a word, which not every dialect has. -/
theorem value_double {l : Layout} {d : Double} (hl : l.leastOrder ≤ 0)
    (hnumber : d.isFinite = true ∨ Dialect.bounded.Le D) (u : Text) :
    Value D k (d.write l numberWords ++ u) (.double d) u := by
  cases d with
  | finite negative m =>
    obtain ⟨n, hn, hinteger, hdenotes⟩ := number_write l hl numberWords negative m u
    exact hdenotes ▸ .number hn fun hi => absurd hi hinteger
  | nan => exact .word ((hnumber.resolve_left Bool.false_ne_true).words (mem_words_of_not_finite rfl))
  | infinite negative => exact .word ((hnumber.resolve_left Bool.false_ne_true).words (mem_words_of_not_finite rfl))

end Scalars

theorem gap_blank (t : Text) : Gap ((' ' : CodePoint) :: t) t := .more (.inl rfl) .none

section Containers

variable {D : Dialect} {k : Nat} {u : Text}

/-- The items of an array as they are written. -/
theorem items_compact : ∀ {v : Json} {items : List Json},
    (∀ w ∈ v :: items, ∀ u, Value D k (w.write ++ u) w.joined u) →
      Items D k (compactItems ascii (v :: items) ++ (']' : CodePoint) :: u) ((v :: items).map joined) u
  | v, [], h => .last (h v List.mem_cons_self _) .none
  | v, w :: items, h => by
    have htext : compactItems ascii (v :: w :: items) ++ (']' : CodePoint) :: u =
        v.write ++ (',' : CodePoint) :: ' ' :: (compactItems ascii (w :: items) ++ (']' : CodePoint) :: u) := by
      simp [compactItems, comma, write]
    rw [htext]
    exact .more (h v List.mem_cons_self _) .none (gap_blank _)
      (items_compact fun w' hw => h w' (List.mem_cons_of_mem _ hw))

theorem named_compact (name t : Text) : Named (ascii.string name ++ (':' : CodePoint) :: ' ' :: t) name.joinPairs t :=
  .intro (quoted_string name _) .none (gap_blank t)

/-- The members of an object as they are written. -/
theorem pairs_compact : ∀ {p : Text × Json} {members : Members},
    (∀ q ∈ p :: members, ∀ u, Value D k (q.2.write ++ u) q.2.joined u) →
      Pairs D k (compactMembers ascii (p :: members) ++ ('\x7d' : CodePoint) :: u)
        ((p :: members).map fun q => (q.1.joinPairs, q.2.joined)) u
  | (name, v), [], h => by
    have htext : compactMembers ascii [(name, v)] ++ ('\x7d' : CodePoint) :: u =
        ascii.string name ++ (':' : CodePoint) :: ' ' :: (v.write ++ ('\x7d' : CodePoint) :: u) := by
      simp [compactMembers, colon, write]
    rw [htext]
    exact .last (named_compact name _) (h (name, v) List.mem_cons_self _) .none
  | (name, v), q :: members, h => by
    have htext : compactMembers ascii ((name, v) :: q :: members) ++ ('\x7d' : CodePoint) :: u =
        ascii.string name ++ (':' : CodePoint) :: ' ' :: (v.write ++ (',' : CodePoint) :: ' ' ::
          (compactMembers ascii (q :: members) ++ ('\x7d' : CodePoint) :: u)) := by
      simp [compactMembers, colon, comma, write]
    rw [htext]
    exact .more (named_compact name _) (h (name, v) List.mem_cons_self _) .none (gap_blank _)
      (pairs_compact fun q' hq => h q' (List.mem_cons_of_mem _ hq))

theorem value_array {items : List Json} (hk : D.nesting (k + 1))
    (h : ∀ w ∈ items, ∀ u, Value D (k + 1) (w.write ++ u) w.joined u) :
    Value D k ((array items).write ++ u) (.array (items.map joined)) u := by
  cases items with
  | nil => exact .emptyArray hk .none
  | cons w items =>
    rw [show (array (w :: items)).write ++ u = ('[' : CodePoint) ::
      (compactItems ascii (w :: items) ++ (']' : CodePoint) :: u) by simp [write, compact, Text.between]]
    exact .array hk .none (items_compact h)

theorem value_object {members : Members} (hk : D.nesting (k + 1))
    (h : ∀ q ∈ members, ∀ u, Value D (k + 1) (q.2.write ++ u) q.2.joined u) :
    Value D k ((object members).write ++ u)
      (.object (Members.ofPairs (members.map fun q => (q.1.joinPairs, q.2.joined)))) u := by
  cases members with
  | nil => exact .emptyObject hk .none
  | cons p members =>
    rw [show (object (p :: members)).write ++ u = ('\x7b' : CodePoint) ::
      (compactMembers ascii (p :: members) ++ ('\x7d' : CodePoint) :: u) by simp [write, compact, Text.between]]
    exact .object hk .none (pairs_compact h) (Members.merged_iff.2 rfl)

end Containers

/-- **A value that could have been read is written as a text of itself with its pairs joined**, in every dialect that has
strict JSON and, unless the value is finite, also words for the other numbers. -/
theorem value_compact {D : Dialect} (hD : Dialect.strict.Le D) {v : Json} {k : Nat} (h : Fits k v)
    (hnumbers : v.isFinite = true ∨ Dialect.bounded.Le D) (u : Text) : Value D k (v.write ++ u) v.joined u := by
  induction v generalizing k u with
  | null => exact hD.word mem_strictWords.1
  | bool b =>
    cases b with
    | true => exact hD.word mem_strictWords.2.1
    | false => exact hD.word mem_strictWords.2.2
  | int i =>
    cases h with
    | int hdigits => exact value_ofInt hD hdigits u
  | double d => exact value_double (by decide) hnumbers u
  | string t => exact .string (quoted_string t u)
  | array items ih =>
    rw [isFinite, itemsFinite_iff] at hnumbers
    rw [joined, joinedItems_eq_map]
    cases h with
    | array hk hitems =>
      exact value_array (hD.nesting _ hk) fun w hw u => ih w hw (hitems w hw) (hnumbers.imp_left (· w hw)) u
  | object members ih =>
    rw [isFinite, membersFinite_iff] at hnumbers
    rw [joined, joinedMembers_eq_map]
    cases h with
    | object hk _ hmembers =>
      refine value_object (hD.nesting _ hk) fun q hq u => ?_
      exact ih q.1 q.2 hq (hmembers q hq) (hnumbers.imp_left (· q.1 q.2 hq)) u

/-- **A finite value that could have been read is written as strict JSON**, as a text of itself with its pairs joined. -/
theorem value_write {v : Json} {k : Nat} (h : Fits k v) (hfinite : v.isFinite = true) (u : Text) :
    Value .strict k (v.write ++ u) v.joined u :=
  value_compact (.refl _) h (.inl hfinite) u

theorem read_of_value_write {v : Json} (h : Value .bounded 0 (v.write ++ []) v.joined []) :
    read v.write = .ok v.joined := by
  rw [List.append_nil] at h
  exact read_eq_ok_iff.2 ⟨v.write, [], .none, h, .none⟩

/-- **A finite value that could have been read is read from its own text, with its pairs joined.** -/
theorem read_write {v : Json} (h : Fits 0 v) (hfinite : v.isFinite = true) : read v.write = .ok v.joined :=
  read_of_value_write ((value_write h hfinite []).mono Dialect.strict_le_bounded)

/-- **So is every other value**, as the reader has words for the numbers that JSON lacks. -/
theorem read_compact {v : Json} (h : Fits 0 v) : read v.write = .ok v.joined :=
  read_of_value_write (value_compact Dialect.strict_le_bounded h (.inr (.refl _)) [])

/-! ## The boundary -/

theorem map_eq_self_iff {α : Type} {f : α → α} {l : List α} : l.map f = l ↔ ∀ a ∈ l, f a = a := by
  simpa using List.map_inj_left (l := l) (f := f) (g := id)

/-- Names that become the same make an object smaller, so an object that is kept keeps each of its members. -/
theorem joined_object_eq_self_iff {members : Members} (hnodup : (Members.names members).Nodup) :
    (object members).joined = object members ↔ ∀ p ∈ members, p.1.joinPairs = p.1 ∧ p.2.joined = p.2 := by
  have hmap : (members.map fun p => (p.1.joinPairs, p.2.joined)) = members ↔
      ∀ p ∈ members, p.1.joinPairs = p.1 ∧ p.2.joined = p.2 := by
    simp only [map_eq_self_iff, Prod.ext_iff]
  rw [joined, joinedMembers_eq_map, object.injEq, ← hmap]
  constructor
  · intro h
    have hlength := (congrArg List.length h).trans (List.length_map fun p => (p.1.joinPairs, p.2.joined)).symm
    rw [← Members.ofPairs_eq_self (Members.nodup_of_length_ofPairs hlength)]
    exact h
  · intro h
    rw [h]
    exact Members.ofPairs_eq_self hnodup

/-- **Joining changes exactly the values that mention a text with a pair.** -/
theorem joined_eq_self_iff {v : Json} {k : Nat} (h : Fits k v) :
    v.joined = v ↔ ∀ t, Mentions t v → ¬ t.HasPair := by
  induction v generalizing k with
  | string s => simp only [joined, string.injEq, Text.joinPairs_eq_self_iff, mentions_string, forall_eq]
  | array items ih =>
    cases h with
    | array _ hitems =>
      rw [joined, joinedItems_eq_map, array.injEq, map_eq_self_iff]
      constructor
      · intro hself t ht
        obtain ⟨v, hv, hmentions⟩ := mentions_array.1 ht
        exact (ih v hv (hitems v hv)).1 (hself v hv) t hmentions
      · intro hnone v hv
        exact (ih v hv (hitems v hv)).2 fun t ht => hnone t (mentions_array.2 ⟨v, hv, ht⟩)
  | object members ih =>
    cases h with
    | object _ hnodup hmembers =>
      rw [joined_object_eq_self_iff hnodup]
      constructor
      · intro hself t ht
        obtain ⟨p, hp, rfl | hmentions⟩ := mentions_object.1 ht
        · exact Text.joinPairs_eq_self_iff.1 (hself p hp).1
        · exact (ih p.1 p.2 hp (hmembers p hp)).1 (hself p hp).2 t hmentions
      · intro hnone p hp
        refine ⟨Text.joinPairs_eq_self_iff.2 (hnone _ (mentions_object.2 ⟨p, hp, .inl rfl⟩)), ?_⟩
        exact (ih p.1 p.2 hp (hmembers p hp)).2 fun t ht => hnone t (mentions_object.2 ⟨p, hp, .inr ht⟩)
  | _ =>
    refine iff_of_true rfl ?_
    rintro t (ht | ⟨members, u, ht, -⟩) <;> cases ht

end MonitorIntake.Json
