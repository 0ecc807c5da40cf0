import MonitorIntake.Proofs.Json.RoundTrip

/-!
# Indented values read back

An indented value reads back as what its spelling says of it (`Spelling.Denotes`), at any level and with any text after
it (`Spelling.Denotes.value_indented`): the line ends and blanks between its elements are white space. **In a report that
is the value itself** (`value_indented`), as strings are written there as they are and no pair is joined; **in ASCII it is
the value with its pairs joined** (`read_indented_ascii`).
-/

namespace MonitorIntake.Json

/-! ## Lines -/

theorem gap_spaces : ∀ (n : Nat) (t : Text), Gap (Text.spaces n ++ t) t
  | 0, _ => .none
  | n + 1, t => .more (.inl rfl) (gap_spaces n t)

theorem gap_lineAt (level : Nat) (t : Text) : Gap (lineAt level ++ t) t :=
  .more (.inr (.inr (.inl rfl))) (gap_spaces _ t)

/-! ## Spellings -/

/-- A text in this spelling reads as what `text` makes of it, and a value as what `value` makes of it. -/
structure Spelling.Denotes (s : Spelling) (text : Text → Text) (value : Json → Json) : Prop where
  quoted : ∀ t u, Quoted (s.string t ++ u) (text t) u
  positional : s.layout.leastOrder ≤ 0
  words : s.words = numberWords
  scalar : ∀ v, v.members? = none → (∀ items, v ≠ .array items) → (∀ t, v ≠ .string t) → value v = v
  string : ∀ t, value (.string t) = .string (text t)
  array : ∀ items, value (.array items) = .array (items.map value)
  object : ∀ members, (Members.names members).Nodup →
    value (.object members) = .object (Members.ofPairs (members.map fun p => (text p.1, value p.2)))

theorem reported_denotes : reported.Denotes id id where
  quoted := quoted_reported
  positional := by decide
  words := rfl
  scalar _ _ _ _ := rfl
  string _ := rfl
  array _ := by simp
  object members h := by simp [Members.ofPairs_eq_self h]

theorem ascii_denotes : ascii.Denotes Text.joinPairs joined where
  quoted := quoted_string
  positional := by decide
  words := rfl
  scalar v hobject harray hstring := by
    cases v with
    | object members => cases hobject
    | array items => exact absurd rfl (harray items)
    | string t => exact absurd rfl (hstring t)
    | _ => rfl
  string _ := rfl
  array items := by rw [joined, joinedItems_eq_map]
  object members _ := by rw [joined, joinedMembers_eq_map]

/-! ## Containers -/

section Containers

variable {s : Spelling} {text : Text → Text} {value : Json → Json} {k level : Nat} {u : Text}

/-- The items of an array, each on its own line, with the closing bracket on a line of any level. -/
theorem items_indented (outer : Nat) : ∀ {v : Json} {items : List Json},
    (∀ w ∈ v :: items, ∀ u, Value .bounded k (indented s level w ++ u) (value w) u) →
      ∃ t, Gap (indentedItems s level (v :: items) ++ (lineAt outer ++ (']' : CodePoint) :: u)) t ∧
        Items .bounded k t ((v :: items).map value) u
  | v, [], h => by
    rw [indentedItems, List.append_assoc]
    exact ⟨_, gap_lineAt level _, .last (h v List.mem_cons_self _) (gap_lineAt outer _)⟩
  | v, w :: items, h => by
    obtain ⟨t, hgap, hitems⟩ := items_indented outer (v := w) fun w' hw => h w' (List.mem_cons_of_mem _ hw)
    have htext : indentedItems s level (v :: w :: items) ++ (lineAt outer ++ (']' : CodePoint) :: u) =
        lineAt level ++ (indented s level v ++ (',' : CodePoint) ::
          (indentedItems s level (w :: items) ++ (lineAt outer ++ (']' : CodePoint) :: u))) := by
      simp [indentedItems, lineComma]
    rw [htext]
    exact ⟨_, gap_lineAt level _, .more (h v List.mem_cons_self _) .none hgap hitems⟩

theorem Spelling.Denotes.named (hs : s.Denotes text value) (name t : Text) :
    Named (s.string name ++ (':' : CodePoint) :: ' ' :: t) (text name) t :=
  .intro (hs.quoted name _) .none (gap_blank t)

/-- The members of an object, each on its own line, with the closing brace on a line of any level. -/
theorem pairs_indented (hs : s.Denotes text value) (outer : Nat) : ∀ {p : Text × Json} {members : Members},
    (∀ q ∈ p :: members, ∀ u, Value .bounded k (indented s level q.2 ++ u) (value q.2) u) →
      ∃ t, Gap (indentedMembers s level (p :: members) ++ (lineAt outer ++ ('\x7d' : CodePoint) :: u)) t ∧
        Pairs .bounded k t ((p :: members).map fun q => (text q.1, value q.2)) u
  | (name, v), [], h => by
    have htext : indentedMembers s level [(name, v)] ++ (lineAt outer ++ ('\x7d' : CodePoint) :: u) =
        lineAt level ++ (s.string name ++ (':' : CodePoint) :: ' ' :: (indented s level v ++
          (lineAt outer ++ ('\x7d' : CodePoint) :: u))) := by
      simp [indentedMembers, colon]
    rw [htext]
    refine ⟨_, gap_lineAt level _, .last (hs.named name _) ?_ (gap_lineAt outer _)⟩
    exact h (name, v) List.mem_cons_self _
  | (name, v), q :: members, h => by
    obtain ⟨t, hgap, hpairs⟩ := pairs_indented hs outer (p := q) fun q' hq => h q' (List.mem_cons_of_mem _ hq)
    have htext : indentedMembers s level ((name, v) :: q :: members) ++
        (lineAt outer ++ ('\x7d' : CodePoint) :: u) =
        lineAt level ++ (s.string name ++ (':' : CodePoint) :: ' ' :: (indented s level v ++
          (',' : CodePoint) :: (indentedMembers s level (q :: members) ++
            (lineAt outer ++ ('\x7d' : CodePoint) :: u)))) := by
      simp [indentedMembers, colon, lineComma]
    rw [htext]
    refine ⟨_, gap_lineAt level _, .more (hs.named name _) ?_ .none hgap hpairs⟩
    exact h (name, v) List.mem_cons_self _

end Containers

/-! ## Values -/

/-- **A finite value that could have been read is written, line by line, as a text of what its spelling says.** -/
theorem Spelling.Denotes.value_indented {s : Spelling} {text : Text → Text} {value : Json → Json}
    (hs : s.Denotes text value) {v : Json} {k : Nat} (h : Fits k v) (hfinite : v.isFinite = true) (level : Nat)
    (u : Text) : Value .bounded k (indented s level v ++ u) (value v) u := by
  have scalar : ∀ {v : Json} {k level : Nat} {u : Text},
      v.members? = none → (∀ items, v ≠ .array items) → (∀ t, v ≠ .string t) →
      Value .bounded k (indented s level v ++ u) v u → Value .bounded k (indented s level v ++ u) (value v) u := by
    intro v k level u hobject harray hstring hv
    rwa [hs.scalar v hobject harray hstring]
  induction v generalizing k level u with
  | null => exact scalar rfl nofun nofun (Dialect.strict_le_bounded.word mem_strictWords.1)
  | bool b =>
    refine scalar rfl nofun nofun ?_
    cases b with
    | true => exact Dialect.strict_le_bounded.word mem_strictWords.2.1
    | false => exact Dialect.strict_le_bounded.word mem_strictWords.2.2
  | int i =>
    cases h with
    | int hdigits => exact scalar rfl nofun nofun (value_ofInt Dialect.strict_le_bounded hdigits u)
  | double d =>
    have hnumber := value_double (D := .bounded) (k := k) (d := d) hs.positional (.inl hfinite) u
    rw [← hs.words] at hnumber
    exact scalar rfl nofun nofun hnumber
  | string t =>
    rw [hs.string]
    exact .string (hs.quoted t u)
  | array items ih =>
    rw [isFinite, itemsFinite_iff] at hfinite
    rw [hs.array]
    cases h with
    | array hk hitems =>
      cases items with
      | nil => exact .emptyArray hk .none
      | cons v items =>
        obtain ⟨t, hgap, hread⟩ := items_indented (u := u) level fun w hw u =>
          ih w hw (hitems w hw) (hfinite w hw) (level + 1) u
        simpa [indented, Text.between] using Value.array hk hgap hread
  | object members ih =>
    rw [isFinite, membersFinite_iff] at hfinite
    cases h with
    | object hk hnodup hmembers =>
      rw [hs.object members hnodup]
      cases members with
      | nil => exact .emptyObject hk .none
      | cons p members =>
        obtain ⟨t, hgap, hread⟩ := pairs_indented (u := u) hs level fun q hq u =>
          ih q.1 q.2 hq (hmembers q hq) (hfinite q.1 q.2 hq) (level + 1) u
        simpa [indented, Text.between] using Value.object hk hgap hread (Members.merged_iff.2 rfl)

/-- **A finite value that could have been read is written in a report as a text of itself.** -/
theorem value_indented {v : Json} {k : Nat} (h : Fits k v) (hfinite : v.isFinite = true) (level : Nat) (u : Text) :
    Value .bounded k (indented reported level v ++ u) v u :=
  reported_denotes.value_indented h hfinite level u

/-- A value with a line end after it is read. -/
theorem read_line {t : Text} {v : Json} (h : Value .bounded 0 (t ++ "\n".toText) v "\n".toText) :
    read (t ++ "\n".toText) = .ok v :=
  read_eq_ok_iff.2 ⟨_, "\n".toText, .none, h, .more (.inr (.inr (.inl rfl))) .none⟩

/-- **An indented value with a line end after it is read as itself.** -/
theorem read_indented {v : Json} (h : Fits 0 v) (hfinite : v.isFinite = true) :
    read (indented reported 0 v ++ "\n".toText) = .ok v :=
  read_line (value_indented h hfinite 0 _)

/-- **In ASCII it is read with its pairs joined.** -/
theorem read_indented_ascii {v : Json} (h : Fits 0 v) (hfinite : v.isFinite = true) :
    read (indented ascii 0 v ++ "\n".toText) = .ok v.joined :=
  read_line (ascii_denotes.value_indented h hfinite 0 _)

end MonitorIntake.Json
