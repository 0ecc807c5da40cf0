import MonitorIntake.Extraction
import MonitorIntake.Proofs.Json.Limits
import MonitorIntake.Proofs.Text.LineEnds

/-!
# Line ends in JSON

**Texts with the same lines are decoded alike** (`decodeText_of_sameLines`). Outside of strings a line end is white
space, of which more or less makes no difference, and inside of them there is none. Every production of the grammar is
`Stable`: what it takes of a text, it takes of every text with the same lines, and leaves texts with the same lines. As
the relation is symmetric, this gives both directions at once.
-/

namespace MonitorIntake

open Text (SameLines)

namespace Json

/-- What the production takes of a text, it takes of every text with the same lines. -/
def Stable (R : Text → Text → Prop) : Prop := ∀ {t t' u : Text}, R t u → SameLines t t' → ∃ u', R t' u' ∧ SameLines u u'

/-! ## White space and strings -/

theorem isLineEnd_eq_false {c : CodePoint} (h : 0x20 ≤ c.val) : c.isLineEnd = false := by
  simp only [CodePoint.isLineEnd, Bool.or_eq_false_iff, decide_eq_false_iff_not]
  omega

theorem Gap.trans {t u w : Text} (h : Gap t u) (h' : Gap u w) : Gap t w := by
  induction h with
  | none => exact h'
  | more hc _ ih => exact .more hc (ih h')

/-- After a line end the other text goes on with the same lines, some white space later. -/
theorem gap_of_sameLines {c : CodePoint} {t t' : Text} (hc : c.isLineEnd = true) (h : SameLines (c :: t) t') :
    ∃ u, Gap t' u ∧ SameLines t u := by
  have gap : ∀ {d : CodePoint} {u : Text}, d.isLineEnd = true → Gap (d :: u) u := by
    intro d u hd
    simp only [CodePoint.isLineEnd, Bool.or_eq_true, decide_eq_true_eq] at hd
    exact .more (by omega) .none
  generalize hw : c :: t = w at h
  induction h with
  | nil => cases hw
  | cons hc' _ =>
    cases hw
    rw [hc] at hc'
    cases hc'
  | ends _ hd h =>
    cases hw
    exact ⟨_, gap hd, h⟩
  | left _ _ _ h =>
    cases hw
    exact ⟨_, .none, h⟩
  | right hb _ _ _ ih =>
    obtain ⟨u, hgap, hu⟩ := ih hw
    exact ⟨u, (gap hb).trans hgap, hu⟩

theorem gap_stable : Stable Gap := by
  intro t t' u h ht
  induction h generalizing t' with
  | none => exact ⟨t', .none, ht⟩
  | @more c t u hc _ ih =>
    cases hend : c.isLineEnd with
    | true =>
      obtain ⟨u, hgap, hu⟩ := gap_of_sameLines hend ht
      obtain ⟨u', hgap', hu'⟩ := ih hu
      exact ⟨u', hgap.trans hgap', hu'⟩
    | false =>
      obtain ⟨u, rfl, hu⟩ := ht.of_cons hend
      obtain ⟨u', hgap, hu'⟩ := ih hu
      exact ⟨u', .more hc hgap, hu'⟩

theorem isLineEnd_of_hexValue? {c : CodePoint} {i : Nat} (h : c.hexValue? = some i) : c.isLineEnd = false := by
  refine isLineEnd_eq_false (Nat.le_of_not_lt fun hlt => ?_)
  have h₁ : ¬ 0x30 ≤ c.val := by omega
  have h₂ : ¬ 0x41 ≤ c.val := by omega
  have h₃ : ¬ 0x61 ≤ c.val := by omega
  simp [CodePoint.hexValue?, h₁, h₂, h₃] at h

theorem spelled_stable (p : Piece) : Stable (Spelled · p ·) := by
  intro t t' u h ht
  cases h with
  | raw hc hquote hslash =>
    obtain ⟨u, rfl, hu⟩ := ht.of_cons (isLineEnd_eq_false hc)
    exact ⟨u, .raw hc hquote hslash, hu⟩
  | @letter e c _ he =>
    have hletter : e.isLineEnd = false := (by decide : ∀ p ∈ letters, p.1.isLineEnd = false) (e, c) he
    obtain ⟨u, rfl, hu⟩ := ht.of_append (w := ['\\', e]) (by simp [hletter]; decide)
    exact ⟨u, .letter he, hu⟩
  | @number a b c d _ _ _ _ _ _ ha hb hc hd hp =>
    obtain ⟨u, rfl, hu⟩ := ht.of_append (w := ['\\', 'u', a, b, c, d])
      (by simp [isLineEnd_of_hexValue? ha, isLineEnd_of_hexValue? hb, isLineEnd_of_hexValue? hc,
        isLineEnd_of_hexValue? hd]; decide)
    exact ⟨u, .number ha hb hc hd hp, hu⟩

theorem pieces_stable (ps : List Piece) : Stable (Pieces · ps ·) := by
  intro t t' u h ht
  induction h generalizing t' with
  | close =>
    obtain ⟨u, rfl, hu⟩ := ht.of_cons (by decide)
    exact ⟨u, .close, hu⟩
  | more hp _ ih =>
    obtain ⟨u, hp, hu⟩ := spelled_stable _ hp ht
    obtain ⟨u', hps, hu'⟩ := ih hu
    exact ⟨u', .more hp hps, hu'⟩

theorem quoted_stable (s : Text) : Stable (Quoted · s ·) := by
  intro t t' u h ht
  cases h with
  | intro hps =>
    obtain ⟨u, rfl, hu⟩ := ht.of_cons (by decide)
    obtain ⟨u', hps, hu'⟩ := pieces_stable _ hps hu
    exact ⟨u', .intro hps, hu'⟩

theorem named_stable (name : Text) : Stable (Named · name ·) := by
  intro t t' u h ht
  cases h with
  | intro hq hg hg' =>
    obtain ⟨u₁, hq, hu₁⟩ := quoted_stable _ hq ht
    obtain ⟨u₂, hg, hu₂⟩ := gap_stable hg hu₁
    obtain ⟨u₃, rfl, hu₃⟩ := hu₂.of_cons (by decide)
    obtain ⟨u', hg', hu'⟩ := gap_stable hg' hu₃
    exact ⟨u', .intro hq hg hg', hu'⟩

/-! ## Numbers -/

theorem isLineEnd_of_isDigit {c : CodePoint} (h : c.isDigit = true) : c.isLineEnd = false := by
  simp only [CodePoint.isDigit, Bool.and_eq_true, decide_eq_true_eq] at h
  exact isLineEnd_eq_false (by omega)

theorem digits_stable (ds : Text) : Stable (Digits · ds ·) := by
  rintro t t' u ⟨rfl, hne, hds⟩ ht
  obtain ⟨u', rfl, hu'⟩ := ht.of_append fun c hc => isLineEnd_of_isDigit (hds c hc)
  exact ⟨u', ⟨rfl, hne, hds⟩, hu'⟩

theorem whole_stable (w : Text) : Stable (Whole · w ·) := by
  intro t t' u h ht
  cases h with
  | zero =>
    obtain ⟨u, rfl, hu⟩ := ht.of_cons (by decide)
    exact ⟨u, .zero, hu⟩
  | other hc hdigits =>
    obtain ⟨d, rest, heq, hd⟩ := hdigits.startsDigit
    cases heq
    obtain ⟨rest', rfl, -⟩ := ht.of_cons (isLineEnd_of_isDigit hd)
    obtain ⟨u', hdigits, hu'⟩ := digits_stable _ hdigits ht
    exact ⟨u', .other hc hdigits, hu'⟩

theorem fraction_stable (f : Text) : Stable (Fraction · f ·) := by
  intro t t' u h ht
  cases h with
  | none => exact ⟨t', .none, ht⟩
  | some hdigits =>
    obtain ⟨t₁, rfl, ht₁⟩ := ht.of_cons (by decide)
    obtain ⟨u', hdigits, hu'⟩ := digits_stable _ hdigits ht₁
    exact ⟨u', .some hdigits, hu'⟩

theorem sign_stable (negative : Bool) : Stable (Sign · negative ·) := by
  intro t t' u h ht
  cases h with
  | none => exact ⟨t', .none, ht⟩
  | plus =>
    obtain ⟨u', rfl, hu'⟩ := ht.of_cons (by decide)
    exact ⟨u', .plus, hu'⟩
  | minus =>
    obtain ⟨u', rfl, hu'⟩ := ht.of_cons (by decide)
    exact ⟨u', .minus, hu'⟩

theorem exponent_stable (e : Option (Bool × Text)) : Stable (Exponent · e ·) := by
  intro t t' u h ht
  cases h with
  | none => exact ⟨t', .none, ht⟩
  | some hletter hs hdigits =>
    obtain ⟨t₁, rfl, ht₁⟩ := ht.of_cons (by rcases hletter with rfl | rfl <;> decide)
    obtain ⟨t₂, hs, ht₂⟩ := sign_stable _ hs ht₁
    obtain ⟨u', hdigits, hu'⟩ := digits_stable _ hdigits ht₂
    exact ⟨u', .some hletter hs hdigits, hu'⟩

theorem number_stable (n : Numeral) : Stable (Number · n ·) := by
  intro t t' u h ht
  cases h with
  | positive hw hf he =>
    obtain ⟨t₁, hw, ht₁⟩ := whole_stable _ hw ht
    obtain ⟨t₂, hf, ht₂⟩ := fraction_stable _ hf ht₁
    obtain ⟨u', he, hu'⟩ := exponent_stable _ he ht₂
    exact ⟨u', .positive hw hf he, hu'⟩
  | negative hw hf he =>
    obtain ⟨t₀, rfl, ht₀⟩ := ht.of_cons (by decide)
    obtain ⟨t₁, hw, ht₁⟩ := whole_stable _ hw ht₀
    obtain ⟨t₂, hf, ht₂⟩ := fraction_stable _ hf ht₁
    obtain ⟨u', he, hu'⟩ := exponent_stable _ he ht₂
    exact ⟨u', .negative hw hf he, hu'⟩

theorem numberEnds_of_sameLines {t t' : Text} (h : NumberEnds t) (ht : SameLines t t') : NumberEnds t' := by
  obtain ⟨hdigit, hfraction, hexponent⟩ := h
  refine ⟨?_, fun f u hf => ?_, fun e u he => ?_⟩
  · rintro ⟨c, u, rfl, hc⟩
    obtain ⟨u', rfl, -⟩ := ht.symm.of_cons (isLineEnd_of_isDigit hc)
    exact hdigit ⟨c, u', rfl, hc⟩
  · obtain ⟨u', hf', -⟩ := fraction_stable f hf ht.symm
    exact hfraction f u' hf'
  · obtain ⟨u', he', -⟩ := exponent_stable e he ht.symm
    exact hexponent e u' he'

/-! ## Values -/

theorem isLineEnd_of_mem_word {w : Text} {v : Json} (h : (w, v) ∈ words) : ∀ c ∈ w, c.isLineEnd = false :=
  (by decide : ∀ p ∈ words.map Prod.fst, ∀ c ∈ p, c.isLineEnd = false) w (List.mem_map.2 ⟨(w, v), h, rfl⟩)

section Values

variable {D : Dialect}

mutual

theorem value_stable (hD : D.words ⊆ words) : ∀ {k : Nat} {t t' : Text} {v : Json} {u : Text},
    Value D k t v u → SameLines t t' → ∃ u', Value D k t' v u' ∧ SameLines u u'
  | _, _, _, _, _, .word hw, ht => by
    obtain ⟨u', rfl, hu'⟩ := ht.of_append (isLineEnd_of_mem_word (hD hw))
    exact ⟨u', .word hw, hu'⟩
  | _, _, _, _, _, .number hn hd, ht => by
    obtain ⟨u', hn, hu'⟩ := number_stable _ hn ht
    exact ⟨u', .number hn hd, hu'⟩
  | _, _, _, _, _, .string hs, ht => by
    obtain ⟨u', hs, hu'⟩ := quoted_stable _ hs ht
    exact ⟨u', .string hs, hu'⟩
  | _, _, _, _, _, .emptyArray hk hg, ht => by
    obtain ⟨t₁, rfl, ht₁⟩ := ht.of_cons (by decide)
    obtain ⟨t₂, hg, ht₂⟩ := gap_stable hg ht₁
    obtain ⟨u', rfl, hu'⟩ := ht₂.of_cons (by decide)
    exact ⟨u', .emptyArray hk hg, hu'⟩
  | _, _, _, _, _, .array hk hg h, ht => by
    obtain ⟨t₁, rfl, ht₁⟩ := ht.of_cons (by decide)
    obtain ⟨t₂, hg, ht₂⟩ := gap_stable hg ht₁
    obtain ⟨u', h, hu'⟩ := items_stable hD h ht₂
    exact ⟨u', .array hk hg h, hu'⟩
  | _, _, _, _, _, .emptyObject hk hg, ht => by
    obtain ⟨t₁, rfl, ht₁⟩ := ht.of_cons (by decide)
    obtain ⟨t₂, hg, ht₂⟩ := gap_stable hg ht₁
    obtain ⟨u', rfl, hu'⟩ := ht₂.of_cons (by decide)
    exact ⟨u', .emptyObject hk hg, hu'⟩
  | _, _, _, _, _, .object hk hg h hm, ht => by
    obtain ⟨t₁, rfl, ht₁⟩ := ht.of_cons (by decide)
    obtain ⟨t₂, hg, ht₂⟩ := gap_stable hg ht₁
    obtain ⟨u', h, hu'⟩ := pairs_stable hD h ht₂
    exact ⟨u', .object hk hg h hm, hu'⟩

theorem items_stable (hD : D.words ⊆ words) : ∀ {k : Nat} {t t' : Text} {vs : List Json} {u : Text},
    Items D k t vs u → SameLines t t' → ∃ u', Items D k t' vs u' ∧ SameLines u u'
  | _, _, _, _, _, .last hv hg, ht => by
    obtain ⟨t₁, hv, ht₁⟩ := value_stable hD hv ht
    obtain ⟨t₂, hg, ht₂⟩ := gap_stable hg ht₁
    obtain ⟨u', rfl, hu'⟩ := ht₂.of_cons (by decide)
    exact ⟨u', .last hv hg, hu'⟩
  | _, _, _, _, _, .more hv hg hg' h, ht => by
    obtain ⟨t₁, hv, ht₁⟩ := value_stable hD hv ht
    obtain ⟨t₂, hg, ht₂⟩ := gap_stable hg ht₁
    obtain ⟨t₃, rfl, ht₃⟩ := ht₂.of_cons (by decide)
    obtain ⟨t₄, hg', ht₄⟩ := gap_stable hg' ht₃
    obtain ⟨u', h, hu'⟩ := items_stable hD h ht₄
    exact ⟨u', .more hv hg hg' h, hu'⟩

theorem pairs_stable (hD : D.words ⊆ words) : ∀ {k : Nat} {t t' : Text} {ps : Members} {u : Text},
    Pairs D k t ps u → SameLines t t' → ∃ u', Pairs D k t' ps u' ∧ SameLines u u'
  | _, _, _, _, _, .last hn hv hg, ht => by
    obtain ⟨t₁, hn, ht₁⟩ := named_stable _ hn ht
    obtain ⟨t₂, hv, ht₂⟩ := value_stable hD hv ht₁
    obtain ⟨t₃, hg, ht₃⟩ := gap_stable hg ht₂
    obtain ⟨u', rfl, hu'⟩ := ht₃.of_cons (by decide)
    exact ⟨u', .last hn hv hg, hu'⟩
  | _, _, _, _, _, .more hn hv hg hg' h, ht => by
    obtain ⟨t₁, hn, ht₁⟩ := named_stable _ hn ht
    obtain ⟨t₂, hv, ht₂⟩ := value_stable hD hv ht₁
    obtain ⟨t₃, hg, ht₃⟩ := gap_stable hg ht₂
    obtain ⟨t₄, rfl, ht₄⟩ := ht₃.of_cons (by decide)
    obtain ⟨t₅, hg', ht₅⟩ := gap_stable hg' ht₄
    obtain ⟨u', h, hu'⟩ := pairs_stable hD h ht₅
    exact ⟨u', .more hn hv hg hg' h, hu'⟩

end

/-- A place that is reached has a place with the same lines behind it in every text with the same lines. -/
theorem reach_stable (hD : D.words ⊆ words) {t t' u : Text} {e : Expected} {k : Nat} (h : Reach D t e k u)
    (ht : SameLines t t') : ∃ u', Reach D t' e k u' ∧ SameLines u u' := by
  induction h with
  | start hg =>
    obtain ⟨u', hg, hu'⟩ := gap_stable hg ht
    exact ⟨u', .start hg, hu'⟩
  | openArray _ hk hg ih =>
    obtain ⟨t₁, hr, ht₁⟩ := ih
    obtain ⟨t₂, rfl, ht₂⟩ := ht₁.of_cons (by decide)
    obtain ⟨u', hg, hu'⟩ := gap_stable hg ht₂
    exact ⟨u', .openArray hr hk hg, hu'⟩
  | item _ ih =>
    obtain ⟨u', hr, hu'⟩ := ih
    exact ⟨u', hr.item, hu'⟩
  | nextItem _ hv hg hg' ih =>
    obtain ⟨t₁, hr, ht₁⟩ := ih
    obtain ⟨t₂, hv, ht₂⟩ := value_stable hD hv ht₁
    obtain ⟨t₃, hg, ht₃⟩ := gap_stable hg ht₂
    obtain ⟨t₄, rfl, ht₄⟩ := ht₃.of_cons (by decide)
    obtain ⟨u', hg', hu'⟩ := gap_stable hg' ht₄
    exact ⟨u', hr.nextItem hv hg hg', hu'⟩
  | openObject _ hk hg ih =>
    obtain ⟨t₁, hr, ht₁⟩ := ih
    obtain ⟨t₂, rfl, ht₂⟩ := ht₁.of_cons (by decide)
    obtain ⟨u', hg, hu'⟩ := gap_stable hg ht₂
    exact ⟨u', .openObject hr hk hg, hu'⟩
  | member _ hn ih =>
    obtain ⟨t₁, hr, ht₁⟩ := ih
    obtain ⟨u', hn, hu'⟩ := named_stable _ hn ht₁
    exact ⟨u', hr.member hn, hu'⟩
  | nextMember _ hn hv hg hg' ih =>
    obtain ⟨t₁, hr, ht₁⟩ := ih
    obtain ⟨t₂, hn, ht₂⟩ := named_stable _ hn ht₁
    obtain ⟨t₃, hv, ht₃⟩ := value_stable hD hv ht₂
    obtain ⟨t₄, hg, ht₄⟩ := gap_stable hg ht₃
    obtain ⟨t₅, rfl, ht₅⟩ := ht₄.of_cons (by decide)
    obtain ⟨u', hg', hu'⟩ := gap_stable hg' ht₅
    exact ⟨u', hr.nextMember hn hv hg hg', hu'⟩

end Values

/-! ## Texts -/

section Texts

variable {t t' : Text}

theorem document_of_sameLines {v : Json} (h : Document .bounded t v) (ht : SameLines t t') :
    Document .bounded t' v := by
  obtain ⟨t₁, u, hg, hv, hend⟩ := h
  obtain ⟨t₁', hg, ht₁⟩ := gap_stable hg ht
  obtain ⟨u', hv, hu⟩ := value_stable (fun _ h => h) hv ht₁
  obtain ⟨w, hend, hw⟩ := gap_stable hend hu
  exact ⟨t₁', u', hg, hv, hw.of_nil ▸ hend⟩

theorem overlong_of_sameLines {count : Nat} (h : Overlong t count) (ht : SameLines t t') : Overlong t' count := by
  obtain ⟨k, u, n, rest, hreach, hn, hends, hi, hcount, hlong⟩ := h
  obtain ⟨u', hreach, hu⟩ := reach_stable (fun _ h => h) hreach ht
  obtain ⟨rest', hn, hrest⟩ := number_stable n hn hu
  exact ⟨k, u', n, rest', hreach, hn, numberEnds_of_sameLines hends hrest, hi, hcount, hlong⟩

/-- Texts with the same lines have the same value, if any. -/
theorem read_eq_ok_of_sameLines {v : Json} (h : read t = .ok v) (ht : SameLines t t') : read t' = .ok v :=
  read_eq_ok_iff.2 (document_of_sameLines (read_eq_ok_iff.1 h) ht)

/-- Texts with the same lines stop the reader alike by an integer with too many digits. -/
theorem read_eq_tooManyDigits_of_sameLines {count : Nat} (h : read t = .error (.tooManyDigits count))
    (ht : SameLines t t') : read t' = .error (.tooManyDigits count) :=
  read_eq_tooManyDigits_iff.2 (overlong_of_sameLines (read_eq_tooManyDigits_iff.1 h) ht)

end Texts

end Json

/-- **Texts with the same lines are decoded alike**, also where they denote nothing. -/
theorem decodeText_of_sameLines {t t' : Text} (ht : SameLines t t') : decodeText t = decodeText t' := by
  cases hread : Json.read t with
  | ok v => simp only [decodeText, hread, Json.read_eq_ok_of_sameLines hread ht]
  | error e =>
    cases hread' : Json.read t' with
    | ok v =>
      rw [Json.read_eq_ok_of_sameLines hread' ht.symm] at hread
      cases hread
    | error e' =>
      by_cases hdigits : ∃ count, e = .tooManyDigits count
      · obtain ⟨count, rfl⟩ := hdigits
        rw [Json.read_eq_tooManyDigits_of_sameLines hread ht] at hread'
        cases hread'
        simp only [decodeText, hread, Json.read_eq_tooManyDigits_of_sameLines hread ht]
      · have hdigits' : ∀ count, e' ≠ .tooManyDigits count := by
          rintro count rfl
          rw [Json.read_eq_tooManyDigits_of_sameLines hread' ht.symm] at hread
          cases hread
          exact hdigits ⟨count, rfl⟩
        cases e <;> cases e' <;> simp_all [decodeText]

end MonitorIntake
