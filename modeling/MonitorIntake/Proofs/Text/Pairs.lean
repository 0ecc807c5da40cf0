import MonitorIntake.Text.Blank

/-!
# Surrogate pairs in texts

A text may hold a high surrogate and a low one right after it as two code points (`Text.HasPair`). `Text.joinPairs`
makes one code point of every such pair, which leaves exactly the texts without a pair as they are
(`joinPairs_eq_self_iff`) and no pair in any text (`not_hasPair_joinPairs`). A text of code points below U+D800 is
joined from itself only (`joinPairs_eq_iff`), and a joined text is blank iff it was (`isBlank_joinPairs`).
-/

namespace MonitorIntake

theorem CodePoint.isHigh_iff {c : CodePoint} : c.isHigh = true ↔ 0xD800 ≤ c.val ∧ c.val ≤ 0xDBFF := by
  simp only [isHigh, Bool.and_eq_true, decide_eq_true_eq]

theorem CodePoint.isLow_iff {c : CodePoint} : c.isLow = true ↔ 0xDC00 ≤ c.val ∧ c.val ≤ 0xDFFF := by
  simp only [isLow, Bool.and_eq_true, decide_eq_true_eq]

theorem CodePoint.val_join {high low : CodePoint} (hh : high.isHigh = true) (hl : low.isLow = true) :
    (join high low).val = 0x10000 + (high.val - 0xD800) * 0x400 + (low.val - 0xDC00) := by
  rw [isHigh_iff] at hh
  rw [isLow_iff] at hl
  simp only [join]
  rw [dif_pos (by omega)]

/-- A joined code point is no half any more. -/
theorem CodePoint.join_not_half {high low : CodePoint} (hh : high.isHigh = true) (hl : low.isLow = true) :
    (join high low).isHigh = false ∧ (join high low).isLow = false := by
  have hval := val_join hh hl
  constructor
  · rw [← Bool.not_eq_true, isHigh_iff]
    omega
  · rw [← Bool.not_eq_true, isLow_iff]
    omega

theorem CodePoint.not_half_of_not_surrogate {c : CodePoint} (h : c.isSurrogate = false) :
    c.isHigh = false ∧ c.isLow = false := by
  simp only [isSurrogate, isHigh, isLow, Bool.and_eq_false_iff,
    decide_eq_false_iff_not] at *
  omega

namespace Text

/-- A high surrogate stands right before a low one. -/
def HasPair (t : Text) : Prop := ∃ high low, [high, low] <:+: t ∧ high.isHigh = true ∧ low.isLow = true

/-- The text with one code point for every surrogate pair. -/
def joinPairs : Text → Text
  | high :: low :: rest =>
    if high.isHigh ∧ low.isLow then CodePoint.join high low :: joinPairs rest
    else high :: joinPairs (low :: rest)
  | [c] => [c]
  | [] => []

theorem not_hasPair_nil : ¬ HasPair [] := by
  rintro ⟨_, _, h, -⟩
  exact absurd h.length_le (by simp)

theorem not_hasPair_singleton (c : CodePoint) : ¬ HasPair [c] := by
  rintro ⟨_, _, h, -⟩
  exact absurd h.length_le (by simp)

theorem hasPair_cons {c d : CodePoint} {t : Text} :
    HasPair (c :: d :: t) ↔ (c.isHigh = true ∧ d.isLow = true) ∨ HasPair (d :: t) := by
  constructor
  · rintro ⟨high, low, h, hhigh, hlow⟩
    rcases List.infix_cons_iff.1 h with h | h
    · obtain ⟨u, hu⟩ := h
      cases hu
      exact .inl ⟨hhigh, hlow⟩
    · exact .inr ⟨high, low, h, hhigh, hlow⟩
  · rintro (⟨hhigh, hlow⟩ | ⟨high, low, h, hhigh, hlow⟩)
    · exact ⟨c, d, ⟨[], t, rfl⟩, hhigh, hlow⟩
    · exact ⟨high, low, h.trans (List.suffix_cons _ _).isInfix, hhigh, hlow⟩

theorem not_hasPair_cons {c : CodePoint} {t : Text} (h : ¬ HasPair t)
    (hc : c.isHigh = true → ∀ d u, t = d :: u → d.isLow = false) : ¬ HasPair (c :: t) := by
  cases t with
  | nil => exact not_hasPair_singleton c
  | cons d u =>
    rw [hasPair_cons]
    rintro (⟨hhigh, hlow⟩ | hpair)
    · rw [hc hhigh d u rfl] at hlow
      cases hlow
    · exact h hpair

/-- **Joining changes exactly the texts that hold a pair**: a joined code point is no surrogate any more. -/
theorem joinPairs_eq_self_iff {t : Text} : joinPairs t = t ↔ ¬ HasPair t := by
  induction t using joinPairs.induct with
  | case1 high low rest h ih =>
    rw [joinPairs, if_pos h, hasPair_cons]
    refine ⟨fun heq => ?_, fun hnone => absurd (.inl h) hnone⟩
    have hval := congrArg CodePoint.val (List.cons.inj heq).1
    have hhigh := CodePoint.isHigh_iff.1 h.1
    rw [CodePoint.val_join h.1 h.2] at hval
    omega
  | case2 high low rest h ih =>
    rw [joinPairs, if_neg h, hasPair_cons, List.cons.injEq, ih]
    simp [h]
  | case3 c => exact iff_of_true rfl (not_hasPair_singleton c)
  | case4 => exact iff_of_true rfl not_hasPair_nil

/-! ## Joined texts -/

/-- A joined text begins with a low surrogate only if the text does. -/
theorem isLow_head_joinPairs {c d : CodePoint} {t u : Text} (h : joinPairs (c :: t) = d :: u)
    (hc : c.isLow = false) : d.isLow = false := by
  cases t with
  | nil =>
    cases h
    exact hc
  | cons e t =>
    rw [joinPairs] at h
    split at h
    · next hpair =>
      obtain ⟨rfl, -⟩ := List.cons.inj h
      exact (CodePoint.join_not_half hpair.1 hpair.2).2
    · obtain ⟨rfl, -⟩ := List.cons.inj h
      exact hc

/-- **No pair is left in a joined text.** -/
theorem not_hasPair_joinPairs (t : Text) : ¬ HasPair (joinPairs t) := by
  induction t using joinPairs.induct with
  | case1 high low rest h ih =>
    rw [joinPairs, if_pos h]
    refine not_hasPair_cons ih fun hhigh => ?_
    rw [(CodePoint.join_not_half h.1 h.2).1] at hhigh
    cases hhigh
  | case2 high low rest h ih =>
    rw [joinPairs, if_neg h]
    refine not_hasPair_cons ih fun hhigh d u hd => isLow_head_joinPairs hd ?_
    exact Bool.eq_false_iff.2 fun hlow => h ⟨hhigh, hlow⟩
  | case3 c => exact not_hasPair_singleton c
  | case4 => exact not_hasPair_nil

theorem hasSurrogate_eq_false {t : Text} : t.hasSurrogate = false ↔ ∀ c ∈ t, c.isSurrogate = false := by
  simp [hasSurrogate]

theorem not_hasPair_of_hasSurrogate {t : Text} (h : t.hasSurrogate = false) : ¬ HasPair t := by
  rintro ⟨high, low, hinfix, hhigh, -⟩
  have hmem : high ∈ t := hinfix.subset List.mem_cons_self
  rw [(CodePoint.not_half_of_not_surrogate (hasSurrogate_eq_false.1 h high hmem)).1] at hhigh
  cases hhigh

/-- The text of a string has no surrogates, as characters are none. -/
theorem hasSurrogate_toText (s : String) : s.toText.hasSurrogate = false := by
  refine hasSurrogate_eq_false.2 fun c hc => ?_
  obtain ⟨d, -, rfl⟩ := List.mem_map.1 hc
  have hd : d.toNat < 0xD800 ∨ 0xDFFF < d.toNat ∧ d.toNat < 0x110000 := d.valid
  have hval : (CodePoint.ofChar d).val = d.toNat := rfl
  rw [← Bool.not_eq_true]
  simp only [CodePoint.isSurrogate, Bool.and_eq_true, decide_eq_true_eq]
  omega

theorem joinPairs_toText (s : String) : s.toText.joinPairs = s.toText :=
  joinPairs_eq_self_iff.2 (not_hasPair_of_hasSurrogate (hasSurrogate_toText s))

/-- **A text of code points below U+D800 is joined from itself only.** -/
theorem joinPairs_eq_iff {t s : Text} (hs : ∀ c ∈ s, c.val < 0xD800) : joinPairs t = s ↔ t = s := by
  constructor
  · intro h
    induction t using joinPairs.induct generalizing s with
    | case1 high low rest hpair ih =>
      rw [joinPairs, if_pos hpair] at h
      have hlt := hs _ (h ▸ List.mem_cons_self)
      rw [CodePoint.val_join hpair.1 hpair.2] at hlt
      omega
    | case2 high low rest hpair ih =>
      rw [joinPairs, if_neg hpair] at h
      subst h
      exact congrArg _ (ih (fun c hc => hs c (List.mem_cons_of_mem _ hc)) rfl)
    | case3 c => exact h
    | case4 => exact h
  · rintro rfl
    refine joinPairs_eq_self_iff.2 (not_hasPair_of_hasSurrogate (hasSurrogate_eq_false.2 fun c hc => ?_))
    have := hs c hc
    simp only [CodePoint.isSurrogate, Bool.and_eq_false_iff, decide_eq_false_iff_not]
    omega

/-- Neither the halves nor the joined code points are white space. -/
theorem isBlank_joinPairs (t : Text) : (joinPairs t).isBlank = t.isBlank := by
  have hspace : ∀ {c : CodePoint}, 0xD800 ≤ c.val → c.isSpace = false := by
    intro c hc
    simp only [CodePoint.isSpace, Bool.or_eq_false_iff, Bool.and_eq_false_iff, decide_eq_false_iff_not,
      beq_eq_false_iff_ne]
    omega
  induction t using joinPairs.induct with
  | case1 high low rest h ih =>
    have hhigh := CodePoint.isHigh_iff.1 h.1
    have hval := CodePoint.val_join h.1 h.2
    rw [joinPairs, if_pos h]
    simp [isBlank, hspace hhigh.1, hspace (show 0xD800 ≤ (CodePoint.join high low).val by omega)]
  | case2 high low rest h ih =>
    rw [joinPairs, if_neg h]
    unfold isBlank at ih ⊢
    rw [List.all_cons, List.all_cons, ih]
  | case3 c => rfl
  | case4 => rfl

end Text

end MonitorIntake
