import MonitorIntake.Decimal.Shortest
import MonitorIntake.Proofs.Decimal.Reduced

/-!
# Shortest decimals read back

**The decimal that a magnitude is written as is read as that magnitude** (`ofDecimal?_shortest`). What is tried on a
grid is kept only if it reads back, so the case that is left is the exact value: it is a whole number of units, and
rounding gives such a number back as it is (`nearest?_units`).
-/

namespace MonitorIntake.Magnitude

variable {m : Magnitude}

/-! ## Rounding of exact values -/

theorem units_ne_zero (h : m.mantissa ≠ 0) : m.units ≠ 0 :=
  Nat.mul_ne_zero h (Nat.pow_pos (by decide)).ne'

theorem roundHalfEven_mul {n den : Nat} (h : 0 < den) : roundHalfEven (n * den) den = n := by
  unfold roundHalfEven
  rw [Nat.mul_mod_left, Nat.mul_div_cancel _ h, if_pos (.inl h)]

/-- The scale of a magnitude is what its units have above 53 binary digits. -/
theorem log2_units (h : m.mantissa ≠ 0) : m.units.log2 - 52 = m.scale := by
  obtain ⟨hlt, -, hnormal⟩ := m.canonical
  have hunits : m.units = m.mantissa * 2 ^ m.scale := rfl
  rcases hnormal with hscale | hlow
  · rw [hunits, hscale, Nat.pow_zero, Nat.mul_one]
    have := (Nat.log2_lt h).2 (show m.mantissa < 2 ^ 53 from hlt)
    omega
  · have hlog : m.units.log2 = 52 + m.scale := by
      rw [Nat.log2_eq_iff (units_ne_zero h), hunits, Nat.pow_add,
        show 52 + m.scale + 1 = 53 + m.scale by omega, Nat.pow_add]
      exact ⟨Nat.mul_le_mul_right _ hlow, Nat.mul_lt_mul_of_pos_right hlt (Nat.pow_pos (by decide))⟩
    omega

/-- **A whole number of units of a magnitude is rounded to it.** -/
theorem nearest?_units {den : Nat} (hm : m.mantissa ≠ 0) (h : 0 < den) : nearest? (m.units * den) den = some m := by
  have hmantissa : roundHalfEven (m.units * den) (den * twoTo m.scale) = m.mantissa := by
    rw [show m.units * den = m.mantissa * (den * twoTo m.scale) by unfold units; ring]
    exact roundHalfEven_mul (Nat.mul_pos h (Nat.pow_pos (by decide)))
  unfold nearest?
  simp only [Nat.mul_div_cancel _ h, log2_units hm, hmantissa]
  rw [if_pos m.canonical.1, ofScaled?, dif_pos m.canonical]

/-! ## Reading decimals -/

theorem ofDecimal?_congr {d d' : Decimal} (h : d.reduced = d'.reduced) : ofDecimal? d = ofDecimal? d' := by
  unfold ofDecimal?
  rw [h]

theorem ofDecimal?_reduced (d : Decimal) : ofDecimal? d.reduced = ofDecimal? d :=
  ofDecimal?_congr d.reduced_reduced

/-- A decimal within the range that is a whole number of units of a magnitude. -/
theorem ofDecimal?_of_units {d : Decimal} (hm : m.mantissa ≠ 0) (hlow : -340 ≤ d.order) (hhigh : d.order ≤ 320)
    (hdigits : d.digits ≠ 0) (hvalue : d.reduced.digits * tenTo d.reduced.exponent.toNat * twoTo 1074 =
      m.units * tenTo (-d.reduced.exponent).toNat) : ofDecimal? d = some m := by
  unfold ofDecimal?
  have horder := Decimal.order_reduced hdigits
  have hne := Decimal.reduced_digits_ne_zero hdigits
  rw [if_neg (by omega), if_neg (by omega), hvalue]
  exact nearest?_units hm (Nat.pow_pos (by decide))

/-! ## The exact value -/

/-- A decimal of `u / 2 ^ s` is `u` units of `2 ^ -s`, however its zeros are placed. -/
theorem scaled_eq {n u k s : Nat} {e : Int} (h : u * Nat.pow 5 s = n * 10 ^ k) (he : e = -(s : Int) + k) :
    n * tenTo e.toNat * twoTo s = u * tenTo (-e).toNat := by
  have hsum : s + e.toNat = (-e).toNat + k := by omega
  refine Nat.eq_of_mul_eq_mul_right (Nat.pow_pos (show 0 < 10 by decide) : 0 < 10 ^ k) ?_
  rw [Nat.pow_eq] at h
  rw [tenTo_eq, tenTo_eq, twoTo_eq]
  calc n * 10 ^ e.toNat * 2 ^ s * 10 ^ k = n * 10 ^ k * 2 ^ s * 10 ^ e.toNat := by ring
    _ = u * (5 ^ s * 2 ^ s) * 10 ^ e.toNat := by rw [← h]; ring
    _ = u * 10 ^ (s + e.toNat) := by rw [← Nat.mul_pow, Nat.pow_add, Nat.mul_assoc]
    _ = u * 10 ^ (-e).toNat * 10 ^ k := by rw [hsum, Nat.pow_add, Nat.mul_assoc]

theorem exactDecimal_digits (m : Magnitude) : m.exactDecimal.digits = m.units * Nat.pow 5 1074 := rfl

/-- Magnitudes lie between `10 ^ -340` and `10 ^ 321`. -/
theorem order_exactDecimal (hm : m.mantissa ≠ 0) :
    -340 ≤ m.exactDecimal.order ∧ m.exactDecimal.order ≤ 320 := by
  have hlow : 10 ^ 734 ≤ m.exactDecimal.digits := by
    have hpos : 1 ≤ m.units := Nat.pos_of_ne_zero (units_ne_zero hm)
    rw [exactDecimal_digits]
    calc 10 ^ 734 ≤ Nat.pow 5 1074 := by decide +kernel
      _ ≤ m.units * Nat.pow 5 1074 := Nat.le_mul_of_pos_left _ hpos
  have hhigh : m.exactDecimal.digits < 10 ^ 1395 := by
    obtain ⟨hmantissa, hscale, -⟩ := m.canonical
    have hpow := Nat.pow_le_pow_right (show 0 < 2 by decide) hscale
    have hunits := Nat.mul_lt_mul_of_lt_of_le hmantissa hpow (Nat.lt_of_lt_of_le (Nat.pow_pos (by decide)) hpow)
    rw [exactDecimal_digits]
    calc m.units * Nat.pow 5 1074 < 0x20000000000000 * 2 ^ 2045 * Nat.pow 5 1074 :=
          Nat.mul_lt_mul_of_pos_right hunits (by decide +kernel)
      _ ≤ 10 ^ 1395 := by decide +kernel
  have hcount := (lt_digitCount_iff (by decide)).2 hlow
  have hcount' := (digitCount_le_iff (by decide)).2 hhigh
  have hexponent : m.exactDecimal.exponent = -1074 := rfl
  unfold Decimal.order
  omega

theorem ofDecimal?_exactDecimal (hm : m.mantissa ≠ 0) : ofDecimal? m.exactDecimal = some m := by
  have hdigits : m.exactDecimal.digits ≠ 0 := by
    rw [exactDecimal_digits]
    exact Nat.mul_ne_zero (units_ne_zero hm) (by decide +kernel)
  obtain ⟨hlow, hhigh⟩ := order_exactDecimal hm
  refine ofDecimal?_of_units hm hlow hhigh hdigits ?_
  obtain ⟨k, hk, hexponent, -⟩ := Decimal.reduced_spec hdigits
  have hvalue := (exactDecimal_digits m).symm.trans hk
  exact scaled_eq hvalue hexponent

/-! ## The shortest decimal -/

theorem readsAs_of_onGrid? {e : Int} {d : Decimal} (h : m.onGrid? e = some d) : ofDecimal? d = some m := by
  have hreads := List.find?_some h
  simpa [readsAs] using hreads

theorem eq_zero_of_mantissa (h : m.mantissa = 0) : m = zero := by
  obtain ⟨mantissa, scale, hcanonical⟩ := m
  obtain rfl : mantissa = 0 := h
  obtain rfl : scale = 0 := hcanonical.2.2.resolve_right (by decide)
  rfl

/-- **The decimal that a magnitude is written as reads back as that magnitude.** -/
theorem ofDecimal?_shortest (m : Magnitude) : ofDecimal? m.shortest = some m := by
  unfold shortest
  split
  · next hm =>
    rw [eq_zero_of_mantissa hm]
    rfl
  · next hm =>
    rw [ofDecimal?_reduced]
    cases hfind : (List.range 17).findSome? fun (k : Nat) => m.onGrid? (m.decimalOrder - k) with
    | none => exact ofDecimal?_exactDecimal hm
    | some d =>
      obtain ⟨k, -, hk⟩ := List.exists_of_findSome?_eq_some hfind
      exact readsAs_of_onGrid? hk

theorem reduced_shortest (m : Magnitude) : m.shortest.reduced = m.shortest := by
  unfold shortest
  split
  · rfl
  · exact Decimal.reduced_reduced _

end MonitorIntake.Magnitude
