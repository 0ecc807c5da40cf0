import Mathlib.Tactic.Ring
import MonitorIntake.Decimal.Basic

/-!
# Reduced decimals

The reduced form of a decimal depends on its value only: zeros moved between the digits and the exponent leave it as it
is (`reduced_eq_of_shift`), so reducing twice is reducing once (`reduced_reduced`). The order of the leading digit is
not changed by it (`order_reduced`).
-/

namespace MonitorIntake

theorem twoTo_eq (n : Nat) : twoTo n = 2 ^ n := rfl

theorem tenTo_eq (n : Nat) : tenTo n = 10 ^ n := rfl

/-! ## Numbers of digits -/

theorem digitCount_le_iff {n k : Nat} (hk : 0 < k) : digitCount n ≤ k ↔ n < 10 ^ k :=
  Nat.length_toDigits_le_iff (by decide) hk

theorem lt_digitCount_iff {n k : Nat} (hk : 0 < k) : k < digitCount n ↔ 10 ^ k ≤ n := by
  rw [← Nat.not_le, digitCount_le_iff hk, Nat.not_lt]

theorem digitCount_mul_ten {n : Nat} (h : n ≠ 0) : digitCount (n * 10) = digitCount n + 1 := by
  rw [digitCount, Nat.toDigits_of_base_le (by decide) (by omega), Nat.mul_div_cancel _ (by decide), List.length_append]
  rfl

theorem digitCount_mul_pow {n : Nat} (h : n ≠ 0) (k : Nat) : digitCount (n * 10 ^ k) = digitCount n + k := by
  induction k with
  | zero => rw [Nat.pow_zero, Nat.mul_one, Nat.add_zero]
  | succ k ih =>
    have hne : n * 10 ^ k ≠ 0 := Nat.mul_ne_zero h (Nat.pow_pos (by decide)).ne'
    rw [Nat.pow_succ, ← Nat.mul_assoc, digitCount_mul_ten hne, ih, Nat.add_assoc]

namespace Decimal

/-! ## Trailing zeros -/

/-- Zeros are moved into the exponent. -/
theorem dropZeros_spec (fuel : Nat) (d : Decimal) : ∃ k : Nat,
    d.digits = (dropZeros fuel d).digits * 10 ^ k ∧ (dropZeros fuel d).exponent = d.exponent + k := by
  induction fuel generalizing d with
  | zero => exact ⟨0, by simp [dropZeros]⟩
  | succ fuel ih =>
    unfold dropZeros
    split
    · next hzero =>
      obtain ⟨k, hdigits, hexponent⟩ := ih ⟨d.digits / 10, d.exponent + 1⟩
      refine ⟨k + 1, ?_, ?_⟩
      · rw [Nat.pow_succ, ← Nat.mul_assoc, ← hdigits]
        simp only
        omega
      · rw [hexponent]
        push_cast
        ring
    · exact ⟨0, by simp⟩

/-- With fuel for all the digits no trailing zero is left. -/
theorem dropZeros_mod {fuel : Nat} {d : Decimal} (hpos : 0 < d.digits) (hfuel : d.digits < 10 ^ fuel) :
    (dropZeros fuel d).digits % 10 ≠ 0 := by
  induction fuel generalizing d with
  | zero => omega
  | succ fuel ih =>
    unfold dropZeros
    split
    · rw [Nat.pow_succ] at hfuel
      refine ih ?_ ?_ <;> simp only <;> omega
    · assumption

theorem reduced_of_zero {d : Decimal} (h : d.digits = 0) : d.reduced = ⟨0, 0⟩ := if_pos h

theorem reduced_spec {d : Decimal} (h : d.digits ≠ 0) : ∃ k : Nat, d.digits = d.reduced.digits * 10 ^ k ∧
    d.reduced.exponent = d.exponent + k ∧ d.reduced.digits % 10 ≠ 0 := by
  have hfuel : d.digits < 10 ^ (d.digits.log2 + 1) :=
    Nat.lt_of_lt_of_le Nat.lt_log2_self (Nat.pow_le_pow_left (by decide) _)
  obtain ⟨k, hdigits, hexponent⟩ := dropZeros_spec (d.digits.log2 + 1) d
  have hmod := dropZeros_mod (Nat.pos_of_ne_zero h) hfuel
  rw [reduced, if_neg h]
  exact ⟨k, hdigits, hexponent, hmod⟩

/-- A number has one form without trailing zeros. -/
theorem eq_of_mul_pow {a b i j : Nat} (ha : a % 10 ≠ 0) (hb : b % 10 ≠ 0) (h : a * 10 ^ i = b * 10 ^ j) :
    a = b ∧ i = j := by
  induction i generalizing j with
  | zero =>
    cases j with
    | zero => exact ⟨by simpa using h, rfl⟩
    | succ j =>
      rw [Nat.pow_succ, ← Nat.mul_assoc] at h
      omega
  | succ i ih =>
    cases j with
    | zero =>
      rw [Nat.pow_succ, ← Nat.mul_assoc] at h
      omega
    | succ j =>
      rw [Nat.pow_succ, Nat.pow_succ, ← Nat.mul_assoc, ← Nat.mul_assoc] at h
      obtain ⟨hab, hij⟩ := ih (Nat.eq_of_mul_eq_mul_right (by decide) h)
      exact ⟨hab, congrArg _ hij⟩

/-- **Zeros moved between the digits and the exponent leave the reduced form as it is.** -/
theorem reduced_eq_of_shift {d d' : Decimal} {k : Nat} (hdigits : d.digits = d'.digits * 10 ^ k)
    (hexponent : d'.exponent = d.exponent + k) : d.reduced = d'.reduced := by
  by_cases h : d'.digits = 0
  · rw [reduced_of_zero h, reduced_of_zero (by rw [hdigits, h, Nat.zero_mul])]
  · have hd : d.digits ≠ 0 := hdigits ▸ Nat.mul_ne_zero h (Nat.pow_pos (by decide)).ne'
    obtain ⟨i, hi, hie, hmod⟩ := reduced_spec hd
    obtain ⟨j, hj, hje, hmod'⟩ := reduced_spec h
    have heq : d.reduced.digits * 10 ^ i = d'.reduced.digits * 10 ^ (j + k) := by
      rw [← hi, Nat.pow_add, ← Nat.mul_assoc, ← hj, hdigits]
    obtain ⟨hsame, hij⟩ := eq_of_mul_pow hmod hmod' heq
    have hsame' : d.reduced.exponent = d'.reduced.exponent := by omega
    cases hr : d.reduced with
    | mk n e =>
      cases hr' : d'.reduced with
      | mk n' e' =>
        rw [hr, hr'] at hsame hsame'
        rw [show n = n' from hsame, show e = e' from hsame']

theorem reduced_reduced (d : Decimal) : d.reduced.reduced = d.reduced := by
  by_cases h : d.digits = 0
  · rw [reduced_of_zero h]
    rfl
  · obtain ⟨k, hdigits, hexponent, -⟩ := reduced_spec h
    exact (reduced_eq_of_shift hdigits hexponent).symm

theorem reduced_digits_ne_zero {d : Decimal} (h : d.digits ≠ 0) : d.reduced.digits ≠ 0 := by
  obtain ⟨-, -, -, hmod⟩ := reduced_spec h
  omega

theorem order_reduced {d : Decimal} (h : d.digits ≠ 0) : d.reduced.order = d.order := by
  obtain ⟨k, hdigits, hexponent, -⟩ := reduced_spec h
  have hcount := digitCount_mul_pow (reduced_digits_ne_zero h) k
  rw [← hdigits] at hcount
  unfold order
  omega

end Decimal

end MonitorIntake
