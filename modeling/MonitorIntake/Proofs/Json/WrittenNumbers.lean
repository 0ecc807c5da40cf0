import MonitorIntake.Decimal.Layout
import MonitorIntake.Proofs.Decimal.ReadBack
import MonitorIntake.Proofs.Json.Grammar
import MonitorIntake.Proofs.Text.Digits

/-!
# Numbers as they are written

* **Integers** (`number_ofInt`): an integer is written as an integer of the grammar and denotes itself.
* **Doubles** (`number_write`): a finite double is written as a number with a fraction or an exponent and denotes
  itself, zero of either sign included. Every layout of digits is a number of the grammar with the same reduced decimal
  (`Layout.writes`), and the decimal that is written reads back.
-/

namespace MonitorIntake

open Json

/-! ## Digits -/

namespace Text

theorem digits_ofNat (n : Nat) (u : Text) : Digits (ofNat n ++ u) (ofNat n) u :=
  ⟨rfl, ofNat_ne_nil n, fun _ h => isDigit_of_mem_ofNat h⟩

theorem isDigit_of_mem_zeros {k : Nat} {c : CodePoint} (h : c ∈ List.replicate k ('0' : CodePoint)) :
    c.isDigit = true := by
  rw [List.eq_of_mem_replicate h]
  decide

/-- Zeros before a number and after it. -/
theorem readDigits_zeros_append (k : Nat) (t : Text) :
    readDigits (List.replicate k ('0' : CodePoint) ++ t) = readDigits t := by
  rw [readDigits_append, readDigits_zeros, Nat.zero_mul, Nat.zero_add]

theorem readDigits_append_zeros (t : Text) (k : Nat) :
    readDigits (t ++ List.replicate k ('0' : CodePoint)) = readDigits t * 10 ^ k := by
  rw [readDigits_append, readDigits_zeros, List.length_replicate, Nat.add_zero]

end Text

theorem digitCount_eq (n : Nat) : digitCount n = (Text.ofNat n).length := by
  rw [digitCount, Text.ofNat, List.length_map]

/-! ## Integers -/

/-- A natural number is written as the digits before the point. -/
theorem whole_ofNat (n : Nat) (u : Text) : Whole (Text.ofNat n ++ u) (Text.ofNat n) u := by
  have hdigits := Text.digits_ofNat n u
  cases h : Text.ofNat n with
  | nil => exact absurd h (Text.ofNat_ne_nil n)
  | cons c rest =>
    rw [h] at hdigits
    by_cases hn : n = 0
    · subst hn
      cases h
      exact .zero
    · exact .other (fun hc => hn ((Text.ofNat_eq_cons h).1 hc)) hdigits

theorem number_ofInt (i : Int) (u : Text) : ∃ n, Number (Text.ofInt i ++ u) n u ∧ n.IsInteger ∧
    n.whole = Text.ofNat i.natAbs ∧ n.denotation = .int i := by
  cases i with
  | ofNat k =>
    refine ⟨⟨false, Text.ofNat k, [], none⟩, .positive (whole_ofNat k u) .none .none, ⟨rfl, rfl⟩, rfl, ?_⟩
    rw [Numeral.denotation, if_pos ⟨rfl, rfl⟩]
    simp [Text.readDigits_ofNat]
  | negSucc k =>
    refine ⟨⟨true, Text.ofNat (k + 1), [], none⟩, .negative (whole_ofNat (k + 1) u) .none .none, ⟨rfl, rfl⟩, rfl, ?_⟩
    rw [Numeral.denotation, if_pos ⟨rfl, rfl⟩]
    simp [Text.readDigits_ofNat, Int.negSucc_eq]

/-! ## Layouts -/

/-- The text is a number with a fraction or an exponent and of the value of the decimal. -/
def Writes (t : Text) (d : Decimal) : Prop :=
  ∀ u, ∃ w f e t₁ t₂, Whole (t ++ u) w t₁ ∧ Fraction t₁ f t₂ ∧ Exponent t₂ e u ∧ ¬ (f = [] ∧ e = none) ∧
    (Numeral.decimal ⟨false, w, f, e⟩).reduced = d.reduced

theorem whole_of_digits {w : Text} (hne : w ≠ []) (hdigits : ∀ c ∈ w, c.isDigit = true)
    (hhead : ∀ t, w ≠ ('0' : CodePoint) :: t) (u : Text) : Whole (w ++ u) w u := by
  cases w with
  | nil => exact absurd rfl hne
  | cons c t => exact .other (fun hc => hhead t (by rw [hc])) ⟨rfl, hne, hdigits⟩

theorem writes_of_point {w f : Text} {d : Decimal} (hw : ∀ u, Whole (w ++ u) w u) (hne : f ≠ [])
    (hdigits : ∀ c ∈ f, c.isDigit = true)
    (hvalue : (⟨Text.readDigits (w ++ f), -f.length⟩ : Decimal).reduced = d.reduced) :
    Writes (w ++ ('.' : CodePoint) :: f) d := by
  intro u
  refine ⟨w, f, none, _, u, ?_, .some ⟨rfl, hne, hdigits⟩, .none, fun h => hne h.1, ?_⟩
  · rw [List.append_assoc]
    exact hw _
  · rw [Numeral.decimal, Numeral.scale, Int.zero_sub]
    exact hvalue

namespace Layout

variable {d : Decimal}

/-- The number of digits and the order fix the exponent. -/
theorem exponent_eq (d : Decimal) : d.exponent = d.order + 1 - (Text.ofNat d.digits).length := by
  rw [Decimal.order, digitCount_eq]
  omega

/-- All digits after the point, with zeros before them. -/
theorem writes_below_point (h : d.order + 1 ≤ 0) : Writes (positional (Text.ofNat d.digits) (d.order + 1)) d := by
  have hexponent := exponent_eq d
  have htext : positional (Text.ofNat d.digits) (d.order + 1) = [('0' : CodePoint)] ++ ('.' : CodePoint) ::
      (List.replicate (-(d.order + 1)).toNat ('0' : CodePoint) ++ Text.ofNat d.digits) := by
    rw [positional, if_pos h]
    rfl
  rw [htext]
  refine writes_of_point (fun _ => .zero) ?_ ?_ ?_
  · simp [Text.ofNat_ne_nil]
  · intro c hc
    rcases List.mem_append.1 hc with hc | hc
    · exact Text.isDigit_of_mem_zeros hc
    · exact Text.isDigit_of_mem_ofNat hc
  · have hdigits : Text.readDigits ([('0' : CodePoint)] ++ (List.replicate (-(d.order + 1)).toNat ('0' : CodePoint) ++
        Text.ofNat d.digits)) = d.digits := by
      rw [show [('0' : CodePoint)] = List.replicate 1 ('0' : CodePoint) from rfl, Text.readDigits_zeros_append,
        Text.readDigits_zeros_append, Text.readDigits_ofNat]
    rw [hdigits]
    refine Decimal.reduced_eq_of_shift (k := 0) (by simp) ?_
    simp only [List.length_append, List.length_replicate]
    omega

/-- All digits before the point, with zeros after them. -/
theorem writes_above_point (hzero : d.digits = 0 → d.exponent = 0) (hpos : 0 < d.order + 1)
    (h : (Text.ofNat d.digits).length ≤ (d.order + 1).toNat) :
    Writes (positional (Text.ofNat d.digits) (d.order + 1)) d := by
  have hexponent := exponent_eq d
  rw [positional, if_neg (by omega), if_pos h, show ".0".toText = [('.' : CodePoint), '0'] from rfl]
  refine writes_of_point ?_ (by simp) (by decide) ?_
  · by_cases hd : d.digits = 0
    · have hnone : (d.order + 1).toNat - (Text.ofNat d.digits).length = 0 := by
        have := hzero hd
        omega
      rw [hnone, List.replicate_zero, List.append_nil]
      exact whole_ofNat d.digits
    · refine whole_of_digits (by simp [Text.ofNat_ne_nil]) (fun c hc => ?_) fun t ht => ?_
      · rcases List.mem_append.1 hc with hc | hc
        · exact Text.isDigit_of_mem_ofNat hc
        · exact Text.isDigit_of_mem_zeros hc
      · cases hn : Text.ofNat d.digits with
        | nil => exact absurd hn (Text.ofNat_ne_nil _)
        | cons c rest =>
          rw [hn] at ht
          exact hd ((Text.ofNat_eq_cons hn).1 (List.cons.inj ht).1)
  · rw [show [('0' : CodePoint)] = List.replicate 1 ('0' : CodePoint) from rfl, Text.readDigits_append_zeros,
      Text.readDigits_append_zeros, Text.readDigits_ofNat, Nat.mul_assoc, ← Nat.pow_add]
    refine Decimal.reduced_eq_of_shift rfl ?_
    simp only [List.length_replicate]
    omega

/-- The point between the digits. -/
theorem writes_around_point (hpos : 0 < d.order + 1) (h : (d.order + 1).toNat < (Text.ofNat d.digits).length) :
    Writes (positional (Text.ofNat d.digits) (d.order + 1)) d := by
  have hexponent := exponent_eq d
  obtain ⟨k, hk⟩ : ∃ k, (d.order + 1).toNat = k + 1 := ⟨(d.order + 1).toNat - 1, by omega⟩
  have hne : d.digits ≠ 0 := by
    intro hd
    rw [hd, hk] at h
    exact absurd h (by simp [Text.ofNat, Nat.toDigits_zero])
  rw [positional, if_neg (by omega), if_neg (by omega), hk, show ".".toText = [('.' : CodePoint)] from rfl,
    List.append_assoc, List.singleton_append]
  rw [hk] at h
  refine writes_of_point (whole_of_digits ?_ (fun c hc => ?_) fun t ht => ?_) ?_ (fun c hc => ?_) ?_
  · simp [Text.ofNat_ne_nil]
  · exact Text.isDigit_of_mem_ofNat (List.mem_of_mem_take hc)
  · cases hn : Text.ofNat d.digits with
    | nil => exact absurd hn (Text.ofNat_ne_nil _)
    | cons c rest =>
      rw [hn, List.take_succ_cons] at ht
      exact hne ((Text.ofNat_eq_cons hn).1 (List.cons.inj ht).1)
  · rw [Ne, List.drop_eq_nil_iff]
    omega
  · exact Text.isDigit_of_mem_ofNat (List.mem_of_mem_drop hc)
  · rw [List.take_append_drop, Text.readDigits_ofNat, List.length_drop]
    refine Decimal.reduced_eq_of_shift (k := 0) (by simp) ?_
    simp only
    omega

/-- An exponent is written with its sign and reads back. -/
theorem exponent_written (least : Nat) (e : Int) (u : Text) : ∃ negative es,
    Exponent (('e' : CodePoint) :: (exponent least e ++ u)) (some (negative, es)) u ∧
      (if negative then -(Text.readDigits es : Int) else Text.readDigits es) = e := by
  have hdigits : ∀ k : Nat, Digits (List.replicate k ('0' : CodePoint) ++ Text.ofNat e.natAbs ++ u)
      (List.replicate k ('0' : CodePoint) ++ Text.ofNat e.natAbs) u := by
    refine fun k => ⟨rfl, by simp [Text.ofNat_ne_nil], fun c hc => ?_⟩
    rcases List.mem_append.1 hc with hc | hc
    · exact Text.isDigit_of_mem_zeros hc
    · exact Text.isDigit_of_mem_ofNat hc
  refine ⟨decide (e < 0), _, .some (.inl rfl) ?_ (hdigits (least - (Text.ofNat e.natAbs).length)), ?_⟩
  · unfold exponent
    by_cases he : e < 0
    · simp only [if_pos he, decide_eq_true he]
      exact .minus
    · simp only [if_neg he, decide_eq_false he]
      exact .plus
  · rw [Text.readDigits_zeros_append, Text.readDigits_ofNat]
    by_cases he : e < 0
    · simp only [decide_eq_true he, if_true]
      omega
    · simp only [decide_eq_false he, Bool.false_eq_true, if_false]
      omega

/-- One digit before the point, and an exponent. -/
theorem writes_scientific (l : Layout) (hne : d.digits ≠ 0) :
    Writes (l.scientific (Text.ofNat d.digits) d.order) d := by
  intro u
  have hexponent := exponent_eq d
  obtain ⟨negative, es, he, hscale⟩ := exponent_written l.exponentDigits d.order u
  cases hn : Text.ofNat d.digits with
  | nil => exact absurd hn (Text.ofNat_ne_nil _)
  | cons c rest =>
    have hdigit : ∀ c' ∈ c :: rest, c'.isDigit = true := fun c' hc => Text.isDigit_of_mem_ofNat (hn ▸ hc)
    have hwhole := whole_of_digits (List.cons_ne_nil c []) (fun c' hc => hdigit c' (by simp_all))
      fun t ht => hne ((Text.ofNat_eq_cons hn).1 (List.cons.inj ht).1)
    have hdecimal : (Numeral.decimal ⟨false, [c], rest, some (negative, es)⟩).reduced = d.reduced := by
      refine Decimal.reduced_eq_of_shift (k := 0) ?_ ?_
      · simp only [Numeral.decimal, List.singleton_append, ← hn, Text.readDigits_ofNat]
        omega
      · simp only [Numeral.decimal, Numeral.scale, hscale]
        rw [hn, List.length_cons] at hexponent
        omega
    have hfraction : ∀ t, Fraction ((if rest.length = 0 then [] else ('.' : CodePoint) :: rest) ++ t) rest t := by
      intro t
      cases rest with
      | nil => exact .none
      | cons c' rest => exact .some ⟨rfl, List.cons_ne_nil _ _, fun d hd => hdigit d (List.mem_cons_of_mem _ hd)⟩
    refine ⟨[c], rest, some (negative, es), _, _, ?_, hfraction _, he, by simp, hdecimal⟩
    rw [show l.scientific (c :: rest) d.order = [c] ++ (if rest.length = 0 then [] else ('.' : CodePoint) :: rest) ++
      [('e' : CodePoint)] ++ exponent l.exponentDigits d.order by simp [scientific, String.toText]]
    simp only [List.append_assoc]
    exact hwhole _

/-- **Every layout writes a number of the value of the decimal.** -/
theorem writes (l : Layout) (hl : l.leastOrder ≤ 0) (hzero : d.digits = 0 → d.exponent = 0) :
    Writes (l.write d) d := by
  have horder : d.digits = 0 → d.order = 0 := fun hd => by
    rw [Decimal.order, hd, hzero hd]
    rfl
  unfold write
  by_cases hpositional : l.leastOrder ≤ d.order ∧ d.order < exponentOrder
  · rw [if_pos hpositional]
    by_cases hpos : 0 < d.order + 1
    · by_cases hlong : (Text.ofNat d.digits).length ≤ (d.order + 1).toNat
      · exact writes_above_point hzero hpos hlong
      · exact writes_around_point hpos (Nat.lt_of_not_le hlong)
    · exact writes_below_point (Int.not_lt.1 hpos)
  · rw [if_neg hpositional]
    refine writes_scientific l fun hd => hpositional ?_
    rw [horder hd]
    exact ⟨hl, by decide⟩

end Layout

/-! ## Doubles -/

/-- **A finite double is written as a number that is no integer and denotes it.** -/
theorem number_write (l : Layout) (hl : l.leastOrder ≤ 0) (words : NumberWords) (negative : Bool) (m : Magnitude)
    (u : Text) : ∃ n, Number ((Double.finite negative m).write l words ++ u) n u ∧ ¬ n.IsInteger ∧
      n.denotation = .double (.finite negative m) := by
  have hzero : m.shortest.digits = 0 → m.shortest.exponent = 0 := fun h => by
    rw [← m.reduced_shortest, Decimal.reduced_of_zero h]
  obtain ⟨w, f, e, t₁, t₂, hw, hf, he, hparts, hdecimal⟩ := l.writes hl hzero u
  have hinteger : ¬ Numeral.IsInteger ⟨negative, w, f, e⟩ := hparts
  have hread : Magnitude.ofDecimal? (Numeral.decimal ⟨negative, w, f, e⟩) = some m :=
    (Magnitude.ofDecimal?_congr hdecimal).trans m.ofDecimal?_shortest
  refine ⟨⟨negative, w, f, e⟩, ?_, hinteger, ?_⟩
  · cases negative with
    | true => exact .negative hw hf he
    | false => exact .positive hw hf he
  · rw [Numeral.denotation, if_neg hinteger, Double.ofDecimal, hread, Double.ofMagnitude?]

end MonitorIntake
