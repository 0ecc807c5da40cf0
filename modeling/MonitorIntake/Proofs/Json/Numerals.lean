import Mathlib.Data.List.TakeDrop
import MonitorIntake.Proofs.Json.Tokens

/-!
# Numbers: the reader and the grammar

`scanNumeral?` takes a number of the grammar (`number_of_scanNumeral?`), and it takes all of it: a number after which
neither a digit nor a fraction nor an exponent follows is read whole (`scanNumeral?_of_number`). The value of what is
read is its denotation unless it is an integer with too many digits (`Numeral.value_eq_ok_iff`,
`Numeral.value_eq_error_iff`).
-/

namespace MonitorIntake.Json

/-- The text begins with a digit. -/
def StartsDigit (t : Text) : Prop := ∃ c u, t = c :: u ∧ c.isDigit = true

/-- No number goes on here: neither a digit nor a fraction nor an exponent follows. -/
def NumberEnds (t : Text) : Prop :=
  ¬ StartsDigit t ∧ (∀ f u, Fraction t f u → f = []) ∧ (∀ e u, Exponent t e u → e = none)

/-! ## Digits -/

theorem Digits.startsDigit {t ds u : Text} (h : Digits t ds u) : StartsDigit t := by
  obtain ⟨rfl, hne, hds⟩ := h
  obtain ⟨c, rest, rfl⟩ := List.exists_cons_of_ne_nil hne
  exact ⟨c, rest ++ u, rfl, hds c List.mem_cons_self⟩

theorem span_of_not_startsDigit {t : Text} (h : ¬ StartsDigit t) : t.span CodePoint.isDigit = ([], t) := by
  rw [List.span_eq_takeWhile_dropWhile]
  cases t with
  | nil => rfl
  | cons c u =>
    have hc : ¬ c.isDigit = true := fun hc => h ⟨c, u, rfl, hc⟩
    rw [List.takeWhile_cons_of_neg hc, List.dropWhile_cons_of_neg hc]

/-- Digits that stop where no digit follows are all that a span takes. -/
theorem Digits.span_eq {t ds u : Text} (h : Digits t ds u) (hu : ¬ StartsDigit u) :
    t.span CodePoint.isDigit = (ds, u) := by
  obtain ⟨rfl, -, hds⟩ := h
  have hspan := span_of_not_startsDigit hu
  rw [List.span_eq_takeWhile_dropWhile, Prod.mk.injEq] at hspan
  rw [List.span_eq_takeWhile_dropWhile, List.takeWhile_append_of_pos hds, List.dropWhile_append_of_pos hds, hspan.1,
    hspan.2, List.append_nil]

/-- A text that begins with a digit begins with digits after which none follows. -/
theorem StartsDigit.exists_digits {t : Text} (h : StartsDigit t) : ∃ ds u, Digits t ds u ∧ ¬ StartsDigit u := by
  obtain ⟨c, rest, rfl, hc⟩ := h
  refine ⟨(c :: rest).takeWhile CodePoint.isDigit, (c :: rest).dropWhile CodePoint.isDigit,
    ⟨List.takeWhile_append_dropWhile.symm, ?_, fun d hd => List.all_eq_true.1 List.all_takeWhile d hd⟩, ?_⟩
  · rw [List.takeWhile_cons_of_pos hc]
    exact List.cons_ne_nil _ _
  · rintro ⟨d, u, hdrop, hd⟩
    have hhead := List.head?_dropWhile_not CodePoint.isDigit (c :: rest)
    simp [hdrop, hd] at hhead

/-! ## The parts of a number -/

theorem Whole.digits {t w u : Text} (h : Whole t w u) : Digits t w u := by
  cases h with
  | zero => exact ⟨rfl, List.cons_ne_nil _ _, by decide⟩
  | other _ hdigits => exact hdigits

theorem whole_of_scanWhole? {t w u : Text} (h : scanWhole? t = some (w, u)) :
    Whole t w u ∧ (1 < w.length → ¬ StartsDigit u) := by
  cases t with
  | nil => cases h
  | cons c rest =>
    simp only [scanWhole?] at h
    split at h
    · next hc =>
      cases h
      subst hc
      exact ⟨.zero, fun h => absurd h (by simp)⟩
    · next hc =>
      split at h
      · next hdigit =>
        obtain ⟨ds, u', hds, hu⟩ := StartsDigit.exists_digits ⟨c, rest, rfl, hdigit⟩
        rw [hds.span_eq hu] at h
        cases h
        exact ⟨.other hc hds, fun _ => hu⟩
      · cases h

theorem scanWhole?_of_whole {t w u : Text} (h : Whole t w u) (hu : ¬ StartsDigit u) : scanWhole? t = some (w, u) := by
  cases h with
  | zero => simp [scanWhole?]
  | other hc hdigits =>
    obtain ⟨d, rest, heq, hd⟩ := hdigits.startsDigit
    cases heq
    simp only [scanWhole?, if_neg hc, if_pos hd, hdigits.span_eq hu]

theorem scanFraction_digits {t ds u : Text} (h : Digits t ds u) (hu : ¬ StartsDigit u) :
    scanFraction ('.' :: t) = (ds, u) := by
  obtain ⟨d, rest, rfl, hd⟩ := h.startsDigit
  simp only [scanFraction, hd, and_self, if_true, h.span_eq hu]

theorem scanFraction_none {t : Text} (h : ∀ u, t = ('.' : CodePoint) :: u → ¬ StartsDigit u) :
    scanFraction t = ([], t) := by
  unfold scanFraction
  split
  · next p d rest =>
    refine if_neg fun hpd => ?_
    obtain ⟨rfl, hd⟩ := hpd
    exact h _ rfl ⟨d, rest, rfl, hd⟩
  · rfl

theorem fraction_of_scanFraction {t f u : Text} (h : scanFraction t = (f, u)) :
    Fraction t f u ∧ (f = [] → ∀ f' u', Fraction u f' u' → f' = []) := by
  by_cases hpoint : ∃ t', t = ('.' : CodePoint) :: t' ∧ StartsDigit t'
  · obtain ⟨t', rfl, ht'⟩ := hpoint
    obtain ⟨ds, u', hds, hu⟩ := ht'.exists_digits
    rw [scanFraction_digits hds hu] at h
    cases h
    exact ⟨.some hds, fun hnil => absurd hnil hds.2.1⟩
  · rw [scanFraction_none fun u hu hdigit => hpoint ⟨u, hu, hdigit⟩] at h
    cases h
    refine ⟨.none, fun _ f' u' hf => ?_⟩
    cases hf with
    | none => rfl
    | some hdigits => exact absurd ⟨_, rfl, hdigits.startsDigit⟩ hpoint

theorem scanFraction_of_fraction {t f u : Text} (h : Fraction t f u) (hdigit : ¬ StartsDigit u)
    (hmore : ∀ f' u', Fraction u f' u' → f' = []) : scanFraction t = (f, u) := by
  cases h with
  | none =>
    refine scanFraction_none fun u hu hstart => ?_
    obtain ⟨ds, u', hds, -⟩ := hstart.exists_digits
    subst hu
    exact hds.2.1 (hmore _ _ (.some hds))
  | some hdigits => exact scanFraction_digits hdigits hdigit

theorem sign_scanSign (t : Text) : Sign t (scanSign t).1 (scanSign t).2 := by
  cases t with
  | nil => exact .none
  | cons c rest =>
    by_cases hminus : c = '-'
    · subst hminus
      exact .minus
    · by_cases hplus : c = '+'
      · subst hplus
        exact .plus
      · simp only [scanSign, if_neg hminus, if_neg hplus]
        exact .none

theorem scanSign_of_sign {t u : Text} {negative : Bool} (h : Sign t negative u) (hu : StartsDigit u) :
    scanSign t = (negative, u) := by
  cases h with
  | none =>
    obtain ⟨c, rest, rfl, hc⟩ := hu
    have hminus : c ≠ '-' := fun e => by simp [e, CodePoint.isDigit, CodePoint.ofChar] at hc
    have hplus : c ≠ '+' := fun e => by simp [e, CodePoint.isDigit, CodePoint.ofChar] at hc
    simp [scanSign, hminus, hplus]
  | plus => rfl
  | minus => rfl

theorem scanExponent_digits {c : CodePoint} {t t₁ ds u : Text} {negative : Bool} (hc : c = 'e' ∨ c = 'E')
    (hsign : Sign t negative t₁) (h : Digits t₁ ds u) (hu : ¬ StartsDigit u) :
    scanExponent (c :: t) = (some (negative, ds), u) := by
  obtain ⟨d, ds, rfl⟩ := List.exists_cons_of_ne_nil h.2.1
  simp only [scanExponent, if_pos hc, scanSign_of_sign hsign h.startsDigit, h.span_eq hu]

theorem scanExponent_none {t : Text}
    (h : ∀ c u, t = c :: u → c = 'e' ∨ c = 'E' → ¬ StartsDigit (scanSign u).2) : scanExponent t = (none, t) := by
  cases t with
  | nil => rfl
  | cons c u =>
    by_cases hc : c = 'e' ∨ c = 'E'
    · simp only [scanExponent, if_pos hc, span_of_not_startsDigit (h c u rfl hc)]
    · simp only [scanExponent, if_neg hc]

theorem exponent_of_scanExponent {t u : Text} {e : Option (Bool × Text)} (h : scanExponent t = (e, u)) :
    Exponent t e u ∧ (e = none → ∀ e' u', Exponent u e' u' → e' = none) := by
  by_cases hletter : ∃ c t', t = c :: t' ∧ (c = 'e' ∨ c = 'E') ∧ StartsDigit (scanSign t').2
  · obtain ⟨c, t', rfl, hc, hdigit⟩ := hletter
    obtain ⟨ds, u', hds, hu⟩ := hdigit.exists_digits
    rw [scanExponent_digits hc (sign_scanSign t') hds hu] at h
    cases h
    exact ⟨.some hc (sign_scanSign t') hds, fun hnone => by cases hnone⟩
  · rw [scanExponent_none fun c t' ht hc hdigit => hletter ⟨c, t', ht, hc, hdigit⟩] at h
    cases h
    refine ⟨.none, fun _ e' u' he => ?_⟩
    cases he with
    | none => rfl
    | some hc hsign hdigits =>
      refine absurd ⟨_, _, rfl, hc, ?_⟩ hletter
      rw [scanSign_of_sign hsign hdigits.startsDigit]
      exact hdigits.startsDigit

theorem scanExponent_of_exponent {t u : Text} {e : Option (Bool × Text)} (h : Exponent t e u)
    (hdigit : ¬ StartsDigit u) (hmore : ∀ e' u', Exponent u e' u' → e' = none) : scanExponent t = (e, u) := by
  cases h with
  | none =>
    refine scanExponent_none fun c t' ht hc hstart => ?_
    obtain ⟨ds, u', hds, -⟩ := hstart.exists_digits
    subst ht
    cases hmore _ _ (.some hc (sign_scanSign t') hds)
  | some hc hsign hdigits => exact scanExponent_digits hc hsign hdigits hdigit

/-! ## Numbers -/

/-- The number that begins after the sign. -/
def scanUnsigned? (negative : Bool) (t : Text) : Option (Numeral × Text) :=
  (scanWhole? t).map fun (w, t₁) =>
    let (f, t₂) := scanFraction t₁
    let (e, u) := scanExponent t₂
    (⟨negative, w, f, e⟩, u)

theorem scanNumeral?_minus (t : Text) : scanNumeral? ('-' :: t) = scanUnsigned? true t := by
  simp only [scanNumeral?, if_true, scanUnsigned?]
  cases scanWhole? t <;> rfl

theorem scanNumeral?_cons {c : CodePoint} (hc : c ≠ '-') (t : Text) :
    scanNumeral? (c :: t) = scanUnsigned? false (c :: t) := by
  simp only [scanNumeral?, if_neg hc, scanUnsigned?]
  cases scanWhole? (c :: t) <;> rfl

theorem Fraction.eq_of_nil {t u : Text} (h : Fraction t [] u) : t = u := by
  cases h with
  | none => rfl
  | some hdigits => exact absurd rfl hdigits.2.1

theorem Exponent.eq_of_none {t u : Text} (h : Exponent t Option.none u) : t = u := by
  cases h
  rfl

/-- What is read after the sign are the parts of a number, and an integer ends where no number goes on. -/
theorem parts_of_scanUnsigned? {negative : Bool} {t u : Text} {n : Numeral}
    (h : scanUnsigned? negative t = some (n, u)) :
    (∃ t₁ t₂, n.negative = negative ∧ Whole t n.whole t₁ ∧ Fraction t₁ n.fraction t₂ ∧ Exponent t₂ n.exponent u) ∧
      (n.IsInteger → 1 < n.whole.length → NumberEnds u) := by
  obtain ⟨⟨w, t₁⟩, hw, heq⟩ := Option.map_eq_some_iff.1 h
  cases hF : scanFraction t₁ with
  | mk f t₂ =>
  cases hE : scanExponent t₂ with
  | mk e u' =>
  simp only [hF, hE, Prod.mk.injEq] at heq
  obtain ⟨rfl, rfl⟩ := heq
  obtain ⟨hwhole, hdigit⟩ := whole_of_scanWhole? hw
  obtain ⟨hfraction, hnofraction⟩ := fraction_of_scanFraction hF
  obtain ⟨hexponent, hnoexponent⟩ := exponent_of_scanExponent hE
  refine ⟨⟨t₁, t₂, rfl, hwhole, hfraction, hexponent⟩, fun ⟨hf, he⟩ hlong => ?_⟩
  simp only at hf he hlong
  subst hf he
  obtain rfl := hfraction.eq_of_nil
  obtain rfl := hexponent.eq_of_none
  exact ⟨hdigit hlong, hnofraction rfl, hnoexponent rfl⟩

theorem startsDigit_iff {c : CodePoint} {t : Text} : StartsDigit (c :: t) ↔ c.isDigit = true := by
  constructor
  · rintro ⟨d, u, heq, hd⟩
    cases heq
    exact hd
  · exact fun h => ⟨c, t, rfl, h⟩

theorem scanUnsigned?_of_parts {negative : Bool} {t t₁ t₂ u w f : Text} {e : Option (Bool × Text)}
    (hw : Whole t w t₁) (hf : Fraction t₁ f t₂) (he : Exponent t₂ e u) (hu : NumberEnds u) :
    scanUnsigned? negative t = some (⟨negative, w, f, e⟩, u) := by
  obtain ⟨hdigit, hfraction, hexponent⟩ := hu
  have ht₂ : ¬ StartsDigit t₂ ∧ ∀ f' u', Fraction t₂ f' u' → f' = [] := by
    cases he with
    | none => exact ⟨hdigit, hfraction⟩
    | some hc _ _ =>
      rw [startsDigit_iff]
      rcases hc with rfl | rfl
      · exact ⟨by decide, fun f' u' hf' => by cases hf'; rfl⟩
      · exact ⟨by decide, fun f' u' hf' => by cases hf'; rfl⟩
  have ht₁ : ¬ StartsDigit t₁ := by
    cases hf with
    | none => exact ht₂.1
    | some _ =>
      rw [startsDigit_iff]
      decide
  simp [scanUnsigned?, scanWhole?_of_whole hw ht₁, scanFraction_of_fraction hf ht₂.1 ht₂.2,
    scanExponent_of_exponent he hdigit hexponent]

/-- **What the scanner takes for a number is one**, and a long integer ends where no number goes on. -/
theorem number_of_scanNumeral? {t u : Text} {n : Numeral} (h : scanNumeral? t = some (n, u)) :
    Number t n u ∧ (n.IsInteger → 1 < n.whole.length → NumberEnds u) := by
  cases t with
  | nil => cases h
  | cons c t =>
    obtain ⟨negative, w, f, e⟩ := n
    by_cases hc : c = '-'
    · subst hc
      rw [scanNumeral?_minus] at h
      obtain ⟨⟨t₁, t₂, hneg, hw, hf, he⟩, hends⟩ := parts_of_scanUnsigned? h
      cases hneg
      exact ⟨.negative hw hf he, hends⟩
    · rw [scanNumeral?_cons hc] at h
      obtain ⟨⟨t₁, t₂, hneg, hw, hf, he⟩, hends⟩ := parts_of_scanUnsigned? h
      cases hneg
      exact ⟨.positive hw hf he, hends⟩

/-- **A number of the grammar is read whole** where no number goes on. -/
theorem scanNumeral?_of_number {t u : Text} {n : Numeral} (h : Number t n u) (hu : NumberEnds u) :
    scanNumeral? t = some (n, u) := by
  cases h with
  | positive hw hf he =>
    obtain ⟨c, rest, rfl, hc⟩ := hw.digits.startsDigit
    have hminus : c ≠ '-' := fun e => by simp [e, CodePoint.isDigit, CodePoint.ofChar] at hc
    rw [scanNumeral?_cons hminus, scanUnsigned?_of_parts hw hf he hu]
  | negative hw hf he => rw [scanNumeral?_minus, scanUnsigned?_of_parts hw hf he hu]

/-! ## The value of a number -/

theorem Numeral.value_eq (n : Numeral) :
    n.value = if n.IsInteger ∧ digitLimit < n.whole.length then .error (.tooManyDigits n.whole.length)
      else .ok n.denotation := by
  unfold value denotation
  by_cases hi : n.IsInteger
  · have hi' : n.fraction = [] ∧ n.exponent = none := hi
    by_cases hd : digitLimit < n.whole.length <;> simp [hi, hi', hd]
  · have hi' : ¬ (n.fraction = [] ∧ n.exponent = none) := hi
    simp only [hi, if_neg hi', false_and, if_false, decimal, scale]
    cases n.exponent with
    | none => rfl
    | some e =>
      obtain ⟨negative, ds⟩ := e
      cases negative <;> rfl

theorem Numeral.value_eq_ok_iff {n : Numeral} {v : Json} :
    n.value = .ok v ↔ v = n.denotation ∧ (n.IsInteger → n.whole.length ≤ digitLimit) := by
  rw [value_eq]
  split
  · next h => simp only [reduceCtorEq, false_iff, not_and]; exact fun _ hle => absurd (hle h.1) (Nat.not_le.2 h.2)
  · next h =>
    rw [Except.ok.injEq]
    exact ⟨fun hv => ⟨hv.symm, fun hi => Nat.not_lt.1 fun hlt => h ⟨hi, hlt⟩⟩, fun hv => hv.1.symm⟩

theorem Numeral.value_eq_error_iff {n : Numeral} {stop : Stop} :
    n.value = .error stop ↔ n.IsInteger ∧ digitLimit < n.whole.length ∧ stop = .tooManyDigits n.whole.length := by
  rw [value_eq]
  split
  · next h =>
    rw [Except.error.injEq]
    exact ⟨fun hs => ⟨h.1, h.2, hs.symm⟩, fun hs => hs.2.2.symm⟩
  · next h =>
    simp only [reduceCtorEq, false_iff]
    exact fun hs => h ⟨hs.1, hs.2.1⟩

end MonitorIntake.Json
