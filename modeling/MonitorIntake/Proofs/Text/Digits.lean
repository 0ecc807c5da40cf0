import Mathlib.Tactic.Ring
import MonitorIntake.Text.Basic

/-!
# Numbers in decimal digits

A natural number is written in digits and reads back (`readDigits_ofNat`). Digits put together count by their places
(`readDigits_append`), so leading zeros count for nothing and `n` digits stay below `10 ^ n` (`readDigits_lt`). The
first digit of a number is zero only if the number is (`ofNat_eq_cons`).
-/

namespace MonitorIntake.Text

theorem ofNat_ne_nil (n : Nat) : ofNat n ≠ [] := by
  simp [ofNat, Nat.toDigits_ne_nil]

theorem isDigit_ofChar {c : Char} : (CodePoint.ofChar c).isDigit = true ↔ c.isDigit = true := by
  rw [Char.isDigit_iff_toNat]
  show (decide (0x30 ≤ c.toNat) && decide (c.toNat ≤ 0x39)) = true ↔ _
  rw [Bool.and_eq_true, decide_eq_true_iff, decide_eq_true_iff]
  exact Iff.rfl

/-- A natural number is written in digits. -/
theorem isDigit_of_mem_ofNat {n : Nat} {c : CodePoint} (h : c ∈ ofNat n) : c.isDigit = true := by
  obtain ⟨d, hd, rfl⟩ := List.mem_map.1 h
  exact isDigit_ofChar.2 (Nat.isDigit_of_mem_toDigits (by omega) (by omega) hd)

theorem length_ofNat_le_iff {n k : Nat} (hk : 0 < k) : (ofNat n).length ≤ k ↔ n < 10 ^ k := by
  rw [ofNat, List.length_map]
  exact Nat.length_toDigits_le_iff (by decide) hk

theorem ofNat_of_lt {n : Nat} (h : n < 10) : ofNat n = [CodePoint.ofChar n.digitChar] := by
  rw [ofNat, Nat.toDigits_of_lt_base h, List.map_singleton]

/-- The last digit of a number is set apart. -/
theorem ofNat_of_le {n : Nat} (h : 10 ≤ n) :
    ofNat n = ofNat (n / 10) ++ [CodePoint.ofChar (n % 10).digitChar] := by
  rw [ofNat, Nat.toDigits_of_base_le (by decide) h, List.map_append, List.map_singleton, ofNat]

theorem ofNat_eq_cons {n : Nat} {c : CodePoint} {t : Text} (h : ofNat n = c :: t) : c = '0' ↔ n = 0 := by
  have hdigit : ∀ d < 10, (CodePoint.ofChar d.digitChar = '0' ↔ d = 0) := by decide
  induction n using Nat.strongRecOn generalizing c t with
  | ind n ih =>
    by_cases hn : n < 10
    · rw [ofNat_of_lt hn] at h
      cases h
      exact hdigit n hn
    · rw [ofNat_of_le (by omega)] at h
      cases hhead : ofNat (n / 10) with
      | nil => exact absurd hhead (ofNat_ne_nil _)
      | cons d u =>
        rw [hhead] at h
        cases h
        have hzero := ih (n / 10) (by omega) hhead
        exact hzero.trans (by omega)

/-! ## Reading digits -/

theorem foldl_digits (n : Nat) (t : Text) :
    t.foldl (fun n c => 10 * n + c.digitValue) n = n * 10 ^ t.length + readDigits t := by
  unfold readDigits
  induction t generalizing n with
  | nil => simp
  | cons c t ih =>
    rw [List.foldl_cons, List.foldl_cons, ih, ih (10 * 0 + _), List.length_cons, Nat.pow_succ]
    ring

theorem readDigits_append (s t : Text) : readDigits (s ++ t) = readDigits s * 10 ^ t.length + readDigits t := by
  rw [← foldl_digits, readDigits, List.foldl_append]
  rfl

theorem readDigits_cons (c : CodePoint) (t : Text) :
    readDigits (c :: t) = c.digitValue * 10 ^ t.length + readDigits t := by
  rw [← foldl_digits, readDigits, List.foldl_cons]
  simp

theorem readDigits_zeros (n : Nat) : readDigits (List.replicate n '0') = 0 := by
  induction n with
  | zero => rfl
  | succ n ih =>
    rw [List.replicate_succ, readDigits_cons, ih]
    simp [CodePoint.digitValue, CodePoint.ofChar]

/-- **A natural number reads back.** -/
theorem readDigits_ofNat (n : Nat) : readDigits (ofNat n) = n := by
  have hdigit : ∀ d < 10, readDigits [CodePoint.ofChar d.digitChar] = d := by decide
  induction n using Nat.strongRecOn with
  | ind n ih =>
    by_cases hn : n < 10
    · rw [ofNat_of_lt hn, hdigit n hn]
    · rw [ofNat_of_le (by omega), readDigits_append, ih _ (by omega), hdigit _ (by omega), List.length_singleton]
      omega

/-- Digits stay below the power of ten of their number. -/
theorem readDigits_lt {t : Text} (h : ∀ c ∈ t, c.isDigit = true) : readDigits t < 10 ^ t.length := by
  induction t with
  | nil => decide
  | cons c t ih =>
    have hc := h c List.mem_cons_self
    simp only [CodePoint.isDigit, Bool.and_eq_true, decide_eq_true_eq] at hc
    have hvalue : c.digitValue ≤ 9 := by
      unfold CodePoint.digitValue
      omega
    have ht := ih fun d hd => h d (List.mem_cons_of_mem _ hd)
    rw [readDigits_cons, List.length_cons, Nat.pow_succ]
    calc c.digitValue * 10 ^ t.length + readDigits t < c.digitValue * 10 ^ t.length + 10 ^ t.length := by omega
      _ ≤ 9 * 10 ^ t.length + 10 ^ t.length := Nat.add_le_add_right (Nat.mul_le_mul_right _ hvalue) _
      _ = 10 ^ t.length * 10 := by ring

end MonitorIntake.Text
