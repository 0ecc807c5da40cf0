import MonitorIntake.Proofs.Json.RoundTrip

/-!
# Joining surrogate pairs

* **Joining once is enough** (`joined_joined`): no pair is left in a joined value, so joining keeps it. It is as finite
  as before and could have been read as well.
* **Texts without surrogates** (`joined_of_read`): what is read from a text without surrogates holds no pair, as the
  reader joins those that are escaped.
* **Names** (`get?_ofPairs_joinedMembers`): a name of code points below U+D800 finds the value that it found before,
  joined.
-/

namespace MonitorIntake.Json

/-! ## Joined values -/

theorem mem_joinedItems {w : Json} {items : List Json} : w ∈ joinedItems items ↔ ∃ v ∈ items, v.joined = w := by
  rw [joinedItems_eq_map, List.mem_map]

/-- A member that is left after joining is one of the members, joined. -/
theorem of_mem_joinedMembers {name : Text} {w : Json} {members : Members}
    (h : (name, w) ∈ Members.ofPairs (joinedMembers members)) :
    ∃ k v, (k, v) ∈ members ∧ k.joinPairs = name ∧ v.joined = w := by
  have hmem := Members.mem_of_mem_ofPairs h
  rw [joinedMembers_eq_map] at hmem
  obtain ⟨p, hp, heq⟩ := List.mem_map.1 hmem
  cases heq
  exact ⟨p.1, p.2, hp, rfl, rfl⟩

/-- Joining leaves no text with a pair. -/
theorem not_hasPair_joined {v : Json} {t : Text} (h : Mentions t v.joined) : ¬ t.HasPair := by
  induction v with
  | string s =>
    rw [joined, mentions_string] at h
    exact h ▸ Text.not_hasPair_joinPairs s
  | array items ih =>
    rw [joined, mentions_array] at h
    obtain ⟨w, hw, ht⟩ := h
    obtain ⟨v, hv, rfl⟩ := mem_joinedItems.1 hw
    exact ih v hv ht
  | object members ih =>
    rw [joined, mentions_object] at h
    obtain ⟨⟨name, w⟩, hp, ht⟩ := h
    obtain ⟨k, v, hv, rfl, rfl⟩ := of_mem_joinedMembers hp
    rcases ht with rfl | ht
    · exact Text.not_hasPair_joinPairs k
    · exact ih k v hv ht
  | _ => rcases h with h | ⟨members, u, h, -⟩ <;> cases h

theorem fits_joined {v : Json} {k : Nat} (h : Fits k v) : Fits k v.joined := by
  induction v generalizing k with
  | string s => exact .string
  | array items ih =>
    cases h with
    | array hk hitems =>
      refine .array hk fun w hw => ?_
      obtain ⟨v, hv, rfl⟩ := mem_joinedItems.1 hw
      exact ih v hv (hitems v hv)
  | object members ih =>
    cases h with
    | object hk _ hmembers =>
      refine .object hk (Members.nodup_names_ofPairs _) fun p hp => ?_
      obtain ⟨k, v, hv, -, hw⟩ := of_mem_joinedMembers hp
      rw [← hw]
      exact ih k v hv (hmembers (k, v) hv)
  | _ => exact h

theorem isFinite_joined {v : Json} (h : v.isFinite = true) : v.joined.isFinite = true := by
  induction v with
  | array items ih =>
    rw [isFinite, itemsFinite_iff] at h
    rw [joined, isFinite, itemsFinite_iff]
    intro w hw
    obtain ⟨v, hv, rfl⟩ := mem_joinedItems.1 hw
    exact ih v hv (h v hv)
  | object members ih =>
    rw [isFinite, membersFinite_iff] at h
    rw [joined, isFinite, membersFinite_iff]
    intro name w hw
    obtain ⟨k, v, hv, -, rfl⟩ := of_mem_joinedMembers hw
    exact ih k v hv (h k v hv)
  | _ => exact h

/-- **Joining twice is joining once.** -/
theorem joined_joined {v : Json} {k : Nat} (h : Fits k v) : v.joined.joined = v.joined :=
  (joined_eq_self_iff (fits_joined h)).2 fun _ ht => not_hasPair_joined ht

/-! ## Texts without surrogates -/

theorem isLow_head_joinPieces {p : Piece} {ps : List Piece} {d : CodePoint} {u : Text}
    (h : joinPieces (p :: ps) = d :: u) (hp : p.point.isLow = false) : d.isLow = false := by
  cases p with
  | plain c =>
    rw [joinPieces_plain] at h
    exact (List.cons.inj h).1 ▸ hp
  | unit c =>
    by_cases hpair : ∃ low rest, ps = .unit low :: rest ∧ c.isHigh = true ∧ low.isLow = true
    · obtain ⟨low, rest, rfl, hhigh, hlow⟩ := hpair
      rw [joinPieces_pair hhigh hlow] at h
      exact (List.cons.inj h).1 ▸ (CodePoint.join_not_half hhigh hlow).2
    · rw [joinPieces_unit_cons fun low rest hps hpair' => hpair ⟨low, rest, hps, hpair'⟩] at h
      exact (List.cons.inj h).1 ▸ hp

/-- Where what is written as itself is no surrogate, a pair could only be of two numbers, and these are joined. -/
theorem not_hasPair_joinPieces {ps : List Piece} (h : ∀ c, .plain c ∈ ps → c.isSurrogate = false) :
    ¬ Text.HasPair (joinPieces ps) := by
  induction ps using joinPieces.induct with
  | case1 high low rest hpair ih =>
    rw [joinPieces_pair hpair.1 hpair.2]
    have hrest := ih fun c hc => h c (List.mem_cons_of_mem _ (List.mem_cons_of_mem _ hc))
    refine Text.not_hasPair_cons hrest fun hhigh => ?_
    rw [(CodePoint.join_not_half hpair.1 hpair.2).1] at hhigh
    cases hhigh
  | case2 high low rest hpair ih =>
    rw [joinPieces_unit_unit hpair]
    refine Text.not_hasPair_cons (ih fun c hc => h c (List.mem_cons_of_mem _ hc)) fun hhigh d u hd => ?_
    exact isLow_head_joinPieces hd (Bool.eq_false_iff.2 fun hlow => hpair ⟨hhigh, hlow⟩)
  | case3 p rest hunits ih =>
    have hrest := ih fun c hc => h c (List.mem_cons_of_mem _ hc)
    cases p with
    | plain c =>
      rw [joinPieces_plain]
      refine Text.not_hasPair_cons hrest fun hhigh => ?_
      rw [(CodePoint.not_half_of_not_surrogate (h c List.mem_cons_self)).1] at hhigh
      cases hhigh
    | unit c =>
      rw [joinPieces_unit_cons fun low rest' hps => absurd rfl (hunits c low rest' · hps)]
      refine Text.not_hasPair_cons hrest fun _ d u hd => ?_
      cases rest with
      | nil => cases hd
      | cons q rest =>
        cases q with
        | plain e =>
          exact isLow_head_joinPieces hd (CodePoint.not_half_of_not_surrogate (h e (by simp))).2
        | unit e => exact absurd rfl (hunits c e rest rfl)
  | case4 => exact Text.not_hasPair_nil

/-- What is written as itself or by a letter is no surrogate in a text without any. -/
theorem Spelled.not_surrogate {t u : Text} {c : CodePoint} (h : Spelled t (.plain c) u) (ht : t.hasSurrogate = false) :
    c.isSurrogate = false := by
  cases h with
  | raw _ _ _ => exact Text.hasSurrogate_eq_false.1 ht c List.mem_cons_self
  | letter he => exact (by decide : ∀ p ∈ letters, p.2.isSurrogate = false) _ he

theorem hasSurrogate_of_suffix {t u : Text} (h : u <:+ t) (ht : t.hasSurrogate = false) : u.hasSurrogate = false :=
  Text.hasSurrogate_eq_false.2 fun c hc => Text.hasSurrogate_eq_false.1 ht c (h.subset hc)

theorem Pieces.not_surrogate {t u : Text} {ps : List Piece} (h : Pieces t ps u) (ht : t.hasSurrogate = false) :
    ∀ c, .plain c ∈ ps → c.isSurrogate = false := by
  induction h with
  | close => simp
  | more hp hps ih =>
    intro c hc
    rcases List.mem_cons.1 hc with rfl | hc
    · exact hp.not_surrogate ht
    · exact ih (hasSurrogate_of_suffix hp.leaves.suffix ht) c hc

theorem Quoted.not_hasPair {t s u : Text} (h : Quoted t s u) (ht : t.hasSurrogate = false) : ¬ s.HasPair := by
  cases h with
  | intro hps => exact not_hasPair_joinPieces (hps.not_surrogate (hasSurrogate_of_suffix (List.suffix_cons _ _) ht))

theorem Named.not_hasPair {t name u : Text} (h : Named t name u) (ht : t.hasSurrogate = false) : ¬ name.HasPair := by
  cases h with
  | intro hq _ _ => exact hq.not_hasPair ht

theorem not_mentions_word {w s : Text} {v : Json} (h : (w, v) ∈ words) : ¬ Mentions s v := by
  simp only [words, List.mem_cons, Prod.mk.injEq, List.not_mem_nil, or_false] at h
  rcases h with ⟨-, rfl⟩ | ⟨-, rfl⟩ | ⟨-, rfl⟩ | ⟨-, rfl⟩ | ⟨-, rfl⟩ | ⟨-, rfl⟩
  all_goals rintro (h | ⟨members, u, h, -⟩) <;> cases h

theorem not_mentions_number (n : Numeral) (s : Text) : ¬ Mentions s n.denotation := by
  unfold Numeral.denotation
  split
  all_goals rintro (h | ⟨members, u, h, -⟩) <;> cases h

mutual

/-- **What is read from a text without surrogates holds no pair.** -/
theorem Value.not_hasPair {D : Dialect} (hD : D.words ⊆ words) : ∀ {k : Nat} {t : Text} {v : Json} {u : Text},
    Value D k t v u → t.hasSurrogate = false → ∀ s, Mentions s v → ¬ s.HasPair
  | _, _, _, _, .word hw, _, s, hs => absurd hs (not_mentions_word (hD hw))
  | _, _, _, _, .number _ _, _, s, hs => absurd hs (not_mentions_number _ s)
  | _, _, _, _, .string hq, ht, s, hs => by
    rw [mentions_string] at hs
    exact hs ▸ hq.not_hasPair ht
  | _, _, _, _, .emptyArray _ _, _, s, hs => by simp [mentions_array] at hs
  | _, _, _, _, .array _ hg h, ht, s, hs => by
    obtain ⟨v, hv, hs⟩ := mentions_array.1 hs
    exact Items.not_hasPair hD h (hasSurrogate_of_suffix (hg.suffix.trans (List.suffix_cons _ _)) ht) v hv s hs
  | _, _, _, _, .emptyObject _ _, _, s, hs => by simp [mentions_object] at hs
  | _, _, _, _, .object _ hg h hm, ht, s, hs => by
    rw [Members.merged_iff.1 hm, mentions_object] at hs
    obtain ⟨p, hp, hs⟩ := hs
    exact Pairs.not_hasPair hD h (hasSurrogate_of_suffix (hg.suffix.trans (List.suffix_cons _ _)) ht) p
      (Members.mem_of_mem_ofPairs hp) s hs

theorem Items.not_hasPair {D : Dialect} (hD : D.words ⊆ words) : ∀ {k : Nat} {t : Text} {vs : List Json} {u : Text},
    Items D k t vs u → t.hasSurrogate = false → ∀ v ∈ vs, ∀ s, Mentions s v → ¬ s.HasPair
  | _, _, _, _, .last hv _, ht => List.forall_mem_singleton.2 (Value.not_hasPair hD hv ht)
  | _, _, _, _, .more hv hg hg' h, ht =>
    List.forall_mem_cons.2 ⟨Value.not_hasPair hD hv ht, Items.not_hasPair hD h
      (hasSurrogate_of_suffix (((hv.leaves hD).gap_cons hg).gap hg').suffix ht)⟩

theorem Pairs.not_hasPair {D : Dialect} (hD : D.words ⊆ words) : ∀ {k : Nat} {t : Text} {ps : Members} {u : Text},
    Pairs D k t ps u → t.hasSurrogate = false → ∀ p ∈ ps, ∀ s, s = p.1 ∨ Mentions s p.2 → ¬ s.HasPair
  | _, _, _, _, .last hn hv _, ht => by
    rintro p hp s (rfl | hs)
    all_goals obtain rfl := List.mem_singleton.1 hp
    · exact hn.not_hasPair ht
    · exact Value.not_hasPair hD hv (hasSurrogate_of_suffix hn.leaves.suffix ht) s hs
  | _, _, _, _, .more hn hv hg hg' h, ht => by
    have hleaves := ((hn.leaves.trans (hv.leaves hD)).gap_cons hg).gap hg'
    rintro p hp s hs
    rcases List.mem_cons.1 hp with rfl | hp
    · rcases hs with rfl | hs
      · exact hn.not_hasPair ht
      · exact Value.not_hasPair hD hv (hasSurrogate_of_suffix hn.leaves.suffix ht) s hs
    · exact Pairs.not_hasPair hD h (hasSurrogate_of_suffix hleaves.suffix ht) p hp s hs

end

/-- **A text without surrogates is read as a value that joining keeps.** -/
theorem joined_of_read {t : Text} {v : Json} (h : read t = .ok v) (ht : t.hasSurrogate = false) : v.joined = v := by
  obtain ⟨t₁, u, hgap, hv, -⟩ := read_eq_ok_iff.1 h
  exact (joined_eq_self_iff hv.fits).2 (Value.not_hasPair (fun _ h => h) hv (hasSurrogate_of_suffix hgap.suffix ht))

/-! ## Members -/

theorem get?_joinedMembers {k : Text} (hk : ∀ c ∈ k, c.val < 0xD800) : ∀ members : Members,
    Members.get? k (joinedMembers members) = (Members.get? k members).map joined
  | [] => rfl
  | (name, v) :: rest => by
    simp only [joinedMembers, Members.get?, Text.joinPairs_eq_iff hk, get?_joinedMembers hk rest]
    split <;> rfl

/-- **A name below U+D800 finds the same value in the joined members, joined.** -/
theorem get?_ofPairs_joinedMembers {k : Text} (hk : ∀ c ∈ k, c.val < 0xD800) {members : Members}
    (hnodup : (Members.names members).Nodup) :
    Members.get? k (Members.ofPairs (joinedMembers members)) = (Members.get? k members).map joined := by
  rw [Members.get?_ofPairs, joinedMembers_eq_map, ← List.map_reverse, ← joinedMembers_eq_map, get?_joinedMembers hk,
    ← Members.get?_ofPairs, Members.ofPairs_eq_self hnodup]

end MonitorIntake.Json
