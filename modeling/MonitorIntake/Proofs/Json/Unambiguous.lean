import MonitorIntake.Proofs.Json.Reading

/-!
# One text, one value

* **The grammar is unambiguous** (`Value.unique`): a text begins with at most one value after which no number goes on,
  whatever the limits. The first character tells which production it is, and each token ends at one place.
* **The members at the top** (`TopLevel`): what an object lists between its outer braces, repeated names included. A
  text lists them in one way only (`TopLevel.unique`), and its value has them merged (`topLevel_of_document`).
-/

namespace MonitorIntake.Json

/-! ## Tokens -/

/-- The first character that is no white space is at one place. -/
theorem Gap.cons_unique {t u w : Text} {c d : CodePoint} (h : Gap t (c :: u)) (h' : Gap t (d :: w))
    (hc : isGap c = false) (hd : isGap d = false) : c = d ∧ u = w := by
  have heq := h.skipGap_eq.symm.trans h'.skipGap_eq
  rw [skipGap_cons hc, skipGap_cons hd] at heq
  exact List.cons.inj heq

theorem Gap.begins_unique {t u w : Text} (h : Gap t u) (h' : Gap t w) (hu : Begins u) (hw : Begins w) : u = w := by
  rw [← hu.skipGap_eq, ← hw.skipGap_eq, ← h.skipGap_eq, h'.skipGap_eq]

theorem Quoted.unique {t s s' u u' : Text} (h : Quoted t s u) (h' : Quoted t s' u') : s = s' ∧ u = u' := by
  cases h with
  | intro hps =>
    have heq := ((@scanString_iff [] _ _ _).2 (.intro hps)).symm.trans (scanString_iff.2 h')
    simpa using heq

/-- A name is one, and what follows its colon is left. -/
theorem Named.unique {t name name' u u' : Text} (h : Named t name u) (h' : Named t name' u') (hu : Begins u)
    (hu' : Begins u') : name = name' ∧ u = u' := by
  cases h with
  | intro hq hg hafter =>
    cases h' with
    | intro hq' hg' hafter' =>
      obtain ⟨rfl, rfl⟩ := hq.unique hq'
      obtain ⟨-, rfl⟩ := hg.cons_unique hg' (by decide) (by decide)
      exact ⟨rfl, hafter.begins_unique hafter' hu hu'⟩

/-- A word or a number. -/
inductive Atom : Text → Json → Text → Prop
  | word {w t : Text} {v : Json} : (w, v) ∈ words → Atom (w ++ t) v t
  | number {n : Numeral} {t u : Text} : Number t n u → Atom t n.denotation u

theorem Atom.unique {t u u' : Text} {v v' : Json} (h : Atom t v u) (hu : NumberEnds u) (h' : Atom t v' u')
    (hu' : NumberEnds u') : v = v' ∧ u = u' := by
  cases h with
  | word hw =>
    have hfind := find_word (t := u) hw
    generalize htext : _ ++ u = t at h' hfind
    cases h' with
    | @word w' t' v' hw' =>
      have heq := hfind.symm.trans (find_word (t := u') hw')
      simp only [Option.some.injEq, Prod.mk.injEq] at heq
      obtain ⟨rfl, rfl⟩ := heq
      exact ⟨rfl, List.append_cancel_left htext⟩
    | number hn =>
      rw [find_word_of_number hn] at hfind
      cases hfind
  | number hn =>
    have hfind := find_word_of_number hn
    cases h' with
    | word hw =>
      rw [find_word hw] at hfind
      cases hfind
    | number hn' =>
      have heq := (scanNumeral?_of_number hn hu).symm.trans (scanNumeral?_of_number hn' hu')
      simp only [Option.some.injEq, Prod.mk.injEq] at heq
      obtain ⟨rfl, rfl⟩ := heq
      exact ⟨rfl, rfl⟩

/-- A word or a number begins neither a string nor a container. -/
theorem Atom.head_ne {c : CodePoint} {t u : Text} {v : Json} (h : Atom (c :: t) v u) :
    c ≠ '"' ∧ c ≠ '[' ∧ c ≠ '\x7b' := by
  generalize htext : c :: t = t' at h
  cases h with
  | word hw =>
    simp only [words, List.mem_cons, Prod.mk.injEq, List.not_mem_nil, or_false] at hw
    rcases hw with ⟨rfl, -⟩ | ⟨rfl, -⟩ | ⟨rfl, -⟩ | ⟨rfl, -⟩ | ⟨rfl, -⟩ | ⟨rfl, -⟩ <;> (cases htext; decide)
  | number hn =>
    cases hn with
    | positive hw _ _ =>
      obtain ⟨d, rest, hd, hdigit⟩ := hw.digits.startsDigit
      obtain ⟨rfl, -⟩ := List.cons.inj (htext.trans hd)
      refine ⟨?_, ?_, ?_⟩
      all_goals
        rintro rfl
        revert hdigit
        decide
    | negative _ _ _ =>
      cases htext
      decide

/-! ## Values -/

section Inversion

variable {D : Dialect} {k : Nat} {t u : Text} {v : Json}

theorem Value.of_quote (h : Value D k ('"' :: t) v u) (hD : D.words ⊆ words) :
    ∃ s, v = .string s ∧ Quoted ('"' :: t) s u := by
  generalize htext : ('"' : CodePoint) :: t = t' at h ⊢
  cases h with
  | word hw => exact absurd rfl (htext ▸ Atom.word (t := u) (hD hw)).head_ne.1
  | number hn _ => exact absurd rfl (htext ▸ Atom.number hn).head_ne.1
  | string hs => exact ⟨_, rfl, hs⟩
  | _ => exact absurd (List.cons.inj htext).1 (by decide)

theorem Value.of_bracket (h : Value D k ('[' :: t) v u) (hD : D.words ⊆ words) :
    (v = .array [] ∧ Gap t (']' :: u)) ∨ ∃ vs t₁, v = .array vs ∧ Gap t t₁ ∧ Items D (k + 1) t₁ vs u := by
  generalize htext : ('[' : CodePoint) :: t = t' at h
  cases h with
  | word hw => exact absurd rfl (htext ▸ Atom.word (t := u) (hD hw)).head_ne.2.1
  | number hn _ => exact absurd rfl (htext ▸ Atom.number hn).head_ne.2.1
  | string hs =>
    cases hs
    exact absurd (List.cons.inj htext).1 (by decide)
  | emptyArray _ hg =>
    cases htext
    exact .inl ⟨rfl, hg⟩
  | array _ hg h =>
    cases htext
    exact .inr ⟨_, _, rfl, hg, h⟩
  | _ => exact absurd (List.cons.inj htext).1 (by decide)

theorem Value.of_brace (h : Value D k ('\x7b' :: t) v u) (hD : D.words ⊆ words) :
    (v = .object [] ∧ Gap t ('\x7d' :: u)) ∨
      ∃ ps ms t₁, v = .object ms ∧ Members.Merged ps ms ∧ Gap t t₁ ∧ Pairs D (k + 1) t₁ ps u := by
  generalize htext : ('\x7b' : CodePoint) :: t = t' at h
  cases h with
  | word hw => exact absurd rfl (htext ▸ Atom.word (t := u) (hD hw)).head_ne.2.2
  | number hn _ => exact absurd rfl (htext ▸ Atom.number hn).head_ne.2.2
  | string hs =>
    cases hs
    exact absurd (List.cons.inj htext).1 (by decide)
  | emptyObject _ hg =>
    cases htext
    exact .inl ⟨rfl, hg⟩
  | object _ hg h hm =>
    cases htext
    exact .inr ⟨_, _, _, rfl, hm, hg, h⟩
  | _ => exact absurd (List.cons.inj htext).1 (by decide)

/-- What begins like a word or a number is one. -/
theorem Value.of_atom {v' : Json} {u' : Text} (h : Value D k t v u) (hD : D.words ⊆ words) (ha : Atom t v' u') :
    Atom t v u := by
  cases h with
  | word hw => exact .word (hD hw)
  | number hn _ => exact .number hn
  | string hs =>
    cases hs
    exact absurd rfl ha.head_ne.1
  | emptyArray _ _ | array _ _ _ => exact absurd rfl ha.head_ne.2.1
  | emptyObject _ _ | object _ _ _ _ => exact absurd rfl ha.head_ne.2.2

end Inversion

/-- An empty container lists nothing else. -/
theorem Items.not_close {D : Dialect} {k : Nat} {t t₁ u w : Text} {vs : List Json} (h : Items D k t₁ vs u)
    (hD : D.words ⊆ words) (hg : Gap t t₁) : ¬ Gap t (']' :: w) := by
  intro hclose
  obtain ⟨c, rest, rfl, hc, hbracket, -⟩ := h.begins hD
  exact hbracket (hg.cons_unique hclose hc (by decide)).1

theorem Pairs.not_close {D : Dialect} {k : Nat} {t t₁ u w : Text} {ps : Members} (h : Pairs D k t₁ ps u)
    (hg : Gap t t₁) : ¬ Gap t ('\x7d' :: w) := by
  intro hclose
  obtain ⟨c, rest, rfl, hc, -, hbrace, -⟩ := h.begins
  exact hbrace (hg.cons_unique hclose hc (by decide)).1

/-- A comma or the end of a container. -/
def IsMark (c : CodePoint) : Prop := c = ',' ∨ c = ']' ∨ c = '\x7d'

/-- What is one value where numbers end is one value before a mark, and the mark is the same. -/
theorem unique_before_mark {D : Dialect} {k : Nat} {t t₁ t₂ u w : Text} {v v' : Json} {c d : CodePoint}
    (h : NumberEnds t₁ → ∀ {k' : Nat} {v' : Json} {u' : Text}, Value D k' t v' u' → NumberEnds u' → v = v' ∧ t₁ = u')
    (hg : Gap t₁ (c :: u)) (hc : IsMark c) (hv' : Value D k t v' t₂) (hg' : Gap t₂ (d :: w)) (hd : IsMark d) :
    v = v' ∧ c = d ∧ u = w := by
  have hgap : ∀ {e : CodePoint}, IsMark e → isGap e = false := by
    rintro e (rfl | rfl | rfl) <;> decide
  obtain ⟨rfl, rfl⟩ := h (hg.numberEnds_cons hc) hv' (hg'.numberEnds_cons hd)
  exact ⟨rfl, hg.cons_unique hg' (hgap hc) (hgap hd)⟩

mutual

/-- **A text begins with one value only**, and the value ends at one place. -/
theorem Value.unique {D : Dialect} (hD : D.words ⊆ words) : ∀ {k : Nat} {t : Text} {v : Json} {u : Text},
    Value D k t v u → NumberEnds u → ∀ {k' : Nat} {v' : Json} {u' : Text}, Value D k' t v' u' → NumberEnds u' →
      v = v' ∧ u = u'
  | _, _, _, _, .word hw, hu, _, _, _, h', hu' =>
    (Atom.word (hD hw)).unique hu (h'.of_atom hD (.word (hD hw))) hu'
  | _, _, _, _, .number hn _, hu, _, _, _, h', hu' =>
    (Atom.number hn).unique hu (h'.of_atom hD (.number hn)) hu'
  | _, _, _, _, .string hs, _, _, _, _, h', _ => by
    cases hs with
    | intro hps =>
      obtain ⟨s', rfl, hs'⟩ := h'.of_quote hD
      obtain ⟨rfl, rfl⟩ := (Quoted.intro hps).unique hs'
      exact ⟨rfl, rfl⟩
  | _, _, _, _, .emptyArray _ hg, _, _, _, _, h', _ => by
    rcases h'.of_bracket hD with ⟨rfl, hg'⟩ | ⟨vs', t₁', rfl, hg', hvs'⟩
    · exact ⟨rfl, (hg.cons_unique hg' (by decide) (by decide)).2⟩
    · exact absurd hg (hvs'.not_close hD hg')
  | _, _, _, _, .array _ hg hvs, _, _, _, _, h', _ => by
    rcases h'.of_bracket hD with ⟨rfl, hg'⟩ | ⟨vs', t₁', rfl, hg', hvs'⟩
    · exact absurd hg' (hvs.not_close hD hg)
    · obtain rfl := hg.begins_unique hg' (hvs.begins hD) (hvs'.begins hD)
      obtain ⟨rfl, rfl⟩ := Items.unique hD hvs hvs'
      exact ⟨rfl, rfl⟩
  | _, _, _, _, .emptyObject _ hg, _, _, _, _, h', _ => by
    rcases h'.of_brace hD with ⟨rfl, hg'⟩ | ⟨ps', ms', t₁', rfl, hm', hg', hps'⟩
    · exact ⟨rfl, (hg.cons_unique hg' (by decide) (by decide)).2⟩
    · exact absurd hg (hps'.not_close hg')
  | _, _, _, _, .object _ hg hps hm, _, _, _, _, h', _ => by
    rcases h'.of_brace hD with ⟨rfl, hg'⟩ | ⟨ps', ms', t₁', rfl, hm', hg', hps'⟩
    · exact absurd hg' (hps.not_close hg)
    · obtain rfl := hg.begins_unique hg' hps.begins hps'.begins
      obtain ⟨rfl, rfl⟩ := Pairs.unique hD hps hps'
      exact ⟨by rw [Members.merged_iff.1 hm, Members.merged_iff.1 hm'], rfl⟩

theorem Items.unique {D : Dialect} (hD : D.words ⊆ words) : ∀ {k : Nat} {t : Text} {vs : List Json} {u : Text},
    Items D k t vs u → ∀ {k' : Nat} {vs' : List Json} {u' : Text}, Items D k' t vs' u' → vs = vs' ∧ u = u'
  | _, _, _, _, .last hv hg, _, _, _, h' => by
    cases h' with
    | last hv' hg' =>
      obtain ⟨rfl, -, rfl⟩ := unique_before_mark (Value.unique hD hv) hg (by simp [IsMark]) hv' hg' (by simp [IsMark])
      exact ⟨rfl, rfl⟩
    | more hv' hg' _ _ =>
      obtain ⟨-, hmark, -⟩ := unique_before_mark (Value.unique hD hv) hg (by simp [IsMark]) hv' hg' (by simp [IsMark])
      exact absurd hmark (by decide)
  | _, _, _, _, .more hv hg hafter hvs, _, _, _, h' => by
    cases h' with
    | last hv' hg' =>
      obtain ⟨-, hmark, -⟩ := unique_before_mark (Value.unique hD hv) hg (by simp [IsMark]) hv' hg' (by simp [IsMark])
      exact absurd hmark (by decide)
    | more hv' hg' hafter' hvs' =>
      obtain ⟨rfl, -, rfl⟩ := unique_before_mark (Value.unique hD hv) hg (by simp [IsMark]) hv' hg' (by simp [IsMark])
      obtain rfl := hafter.begins_unique hafter' (hvs.begins hD) (hvs'.begins hD)
      obtain ⟨rfl, rfl⟩ := Items.unique hD hvs hvs'
      exact ⟨rfl, rfl⟩

theorem Pairs.unique {D : Dialect} (hD : D.words ⊆ words) : ∀ {k : Nat} {t : Text} {ps : Members} {u : Text},
    Pairs D k t ps u → ∀ {k' : Nat} {ps' : Members} {u' : Text}, Pairs D k' t ps' u' → ps = ps' ∧ u = u'
  | _, _, _, _, .last hn hv hg, _, _, _, h' => by
    cases h' with
    | last hn' hv' hg' =>
      obtain ⟨rfl, rfl⟩ := hn.unique hn' (hv.begins hD) (hv'.begins hD)
      obtain ⟨rfl, -, rfl⟩ := unique_before_mark (Value.unique hD hv) hg (by simp [IsMark]) hv' hg' (by simp [IsMark])
      exact ⟨rfl, rfl⟩
    | more hn' hv' hg' _ _ =>
      obtain ⟨rfl, rfl⟩ := hn.unique hn' (hv.begins hD) (hv'.begins hD)
      obtain ⟨-, hmark, -⟩ := unique_before_mark (Value.unique hD hv) hg (by simp [IsMark]) hv' hg' (by simp [IsMark])
      exact absurd hmark (by decide)
  | _, _, _, _, .more hn hv hg hafter hps, _, _, _, h' => by
    cases h' with
    | last hn' hv' hg' =>
      obtain ⟨rfl, rfl⟩ := hn.unique hn' (hv.begins hD) (hv'.begins hD)
      obtain ⟨-, hmark, -⟩ := unique_before_mark (Value.unique hD hv) hg (by simp [IsMark]) hv' hg' (by simp [IsMark])
      exact absurd hmark (by decide)
    | more hn' hv' hg' hafter' hps' =>
      obtain ⟨rfl, rfl⟩ := hn.unique hn' (hv.begins hD) (hv'.begins hD)
      obtain ⟨rfl, -, rfl⟩ := unique_before_mark (Value.unique hD hv) hg (by simp [IsMark]) hv' hg' (by simp [IsMark])
      obtain rfl := hafter.begins_unique hafter' hps.begins hps'.begins
      obtain ⟨rfl, rfl⟩ := Pairs.unique hD hps hps'
      exact ⟨rfl, rfl⟩

end

/-! ## Members at the top -/

/-- The text is an object that lists these members between its outer braces, in this order and repeated names
included. -/
inductive TopLevel (D : Dialect) (t : Text) : Members → Prop
  | empty {t₁ u : Text} : Gap t ('\x7b' :: t₁) → Gap t₁ ('\x7d' :: u) → Gap u [] → TopLevel D t []
  | members {t₁ t₂ u : Text} {ps : Members} : Gap t ('\x7b' :: t₁) → Gap t₁ t₂ → Pairs D 1 t₂ ps u → Gap u [] →
      TopLevel D t ps

/-- **A text lists its members in one way only.** -/
theorem TopLevel.unique {D : Dialect} {t : Text} {ps ps' : Members} (h : TopLevel D t ps) (h' : TopLevel D t ps')
    (hD : D.words ⊆ words) : ps = ps' := by
  cases h with
  | empty hopen hclose _ =>
    cases h' with
    | empty _ _ _ => rfl
    | members hopen' hg' hps' _ =>
      obtain ⟨-, rfl⟩ := hopen.cons_unique hopen' (by decide) (by decide)
      exact absurd hclose (hps'.not_close hg')
  | members hopen hg hps _ =>
    cases h' with
    | empty hopen' hclose' _ =>
      obtain ⟨-, rfl⟩ := hopen.cons_unique hopen' (by decide) (by decide)
      exact absurd hclose' (hps.not_close hg)
    | members hopen' hg' hps' _ =>
      obtain ⟨-, rfl⟩ := hopen.cons_unique hopen' (by decide) (by decide)
      obtain rfl := hg.begins_unique hg' hps.begins hps'.begins
      exact (Pairs.unique hD hps hps').1

theorem TopLevel.mono {D D' : Dialect} (hD : D.Le D') {t : Text} {ps : Members} (h : TopLevel D t ps) :
    TopLevel D' t ps := by
  cases h with
  | empty hopen hclose hend => exact .empty hopen hclose hend
  | members hopen hg hps hend => exact .members hopen hg (hps.mono hD) hend

/-- **The value of an object is its members, merged.** -/
theorem topLevel_of_document {D : Dialect} {t : Text} {ms : Members} (h : Document D t (.object ms))
    (hD : D.words ⊆ words) : ∃ ps, TopLevel D t ps ∧ Members.Merged ps ms := by
  obtain ⟨t₁, u, hgap, hv, hend⟩ := h
  generalize hobject : Json.object ms = v at hv
  cases hv with
  | word hw =>
    have hw := hD hw
    subst hobject
    simp [words] at hw
  | number hn _ =>
    unfold Numeral.denotation at hobject
    split at hobject <;> cases hobject
  | emptyObject _ hg =>
    cases hobject
    exact ⟨[], .empty hgap hg hend, Members.merged_iff.2 rfl⟩
  | object _ hg hps hm =>
    cases hobject
    exact ⟨_, .members hgap hg hps hend, hm⟩
  | _ => cases hobject

end MonitorIntake.Json
