import MonitorIntake.Proofs.Json.Grammar

/-!
# White space and strings: the reader and the grammar

* `skipGap` takes all the white space that the grammar may take (`gap_skipGap`, `Gap.skipGap_eq`).
* `scanString` reads exactly the strings of the grammar (`scanString_iff`). It works from left to right with the points
  read so far, last first; `pending` says what text these and the pieces still to come denote together, since a half of
  a surrogate pair at the end of what is read waits for its other half.
-/

namespace MonitorIntake

namespace CodePoint

theorem ext {c d : CodePoint} (h : c.val = d.val) : c = d := by
  cases c
  cases d
  cases h
  rfl

theorem eq_ofChar_iff {c : CodePoint} {d : Char} : c = d ↔ c.val = d.toNat := ⟨fun h => h ▸ rfl, fun h => ext h⟩

@[simp] theorem ofChar_inj {a b : Char} : ofChar a = ofChar b ↔ a = b := by
  rw [eq_ofChar_iff]
  exact Char.toNat_inj

theorem ofNat?_eq_some_iff {n : Nat} {c : CodePoint} : ofNat? n = some c ↔ c.val = n := by
  unfold ofNat?
  split
  · rw [Option.some.injEq]
    exact ⟨fun h => h ▸ rfl, fun h => ext h.symm⟩
  · have hlt := c.isLt
    simp only [reduceCtorEq, false_iff]
    omega

/-- A low surrogate is no high one. -/
theorem isHigh_of_isLow {c : CodePoint} (h : c.isLow = true) : c.isHigh = false := by
  simp only [isLow, isHigh, Bool.and_eq_true, decide_eq_true_eq, Bool.and_eq_false_iff, decide_eq_false_iff_not] at *
  omega

end CodePoint

namespace Json

/-! ## White space -/

theorem isGap_iff {c : CodePoint} :
    isGap c = true ↔ c.val = 0x20 ∨ c.val = 0x09 ∨ c.val = 0x0A ∨ c.val = 0x0D := by
  simp [isGap, or_assoc]

theorem gap_skipGap : ∀ t : Text, Gap t (skipGap t)
  | [] => .none
  | c :: t => by
    by_cases h : isGap c = true
    · rw [skipGap, List.dropWhile_cons_of_pos h]
      exact .more (isGap_iff.1 h) (gap_skipGap t)
    · rw [skipGap, List.dropWhile_cons_of_neg h]
      exact .none

/-- White space that is taken in part leaves the rest of it to be skipped. -/
theorem Gap.skipGap_eq {t u : Text} (h : Gap t u) : skipGap t = skipGap u := by
  induction h with
  | none => rfl
  | more hc _ ih => rw [← ih, skipGap, List.dropWhile_cons_of_pos (isGap_iff.2 hc), skipGap]

theorem skipGap_cons {c : CodePoint} {t : Text} (h : isGap c = false) : skipGap (c :: t) = c :: t := by
  rw [skipGap, List.dropWhile_cons_of_neg (by simp [h])]

theorem Gap.length_le {t u : Text} (h : Gap t u) : u.length ≤ t.length := by
  induction h with
  | none => exact Nat.le_refl _
  | more _ _ ih => exact Nat.le_succ_of_le ih

/-! ## Escapes -/

theorem shortEscape?_eq_some_iff {e c : CodePoint} : shortEscape? e = some c ↔ (e, c) ∈ letters := by
  simp only [letters, List.mem_cons, Prod.mk.injEq, List.not_mem_nil, or_false]
  constructor
  · intro h
    unfold shortEscape? at h
    repeat' split at h
    all_goals simp_all
    grind
  · rintro (⟨rfl, rfl⟩ | ⟨rfl, rfl⟩ | ⟨rfl, rfl⟩ | ⟨rfl, rfl⟩ | ⟨rfl, rfl⟩ | ⟨rfl, rfl⟩ | ⟨rfl, rfl⟩ | ⟨rfl, rfl⟩)
    all_goals rfl

theorem not_mem_letters_u (c : CodePoint) : (('u' : CodePoint), c) ∉ letters := by
  rw [← shortEscape?_eq_some_iff, show shortEscape? 'u' = none from rfl]
  simp

theorem hexNumber?_eq_some_iff {a b c d p : CodePoint} :
    hexNumber? a b c d = some p ↔ ∃ i j k l, a.hexValue? = some i ∧ b.hexValue? = some j ∧ c.hexValue? = some k ∧
      d.hexValue? = some l ∧ p.val = ((i * 16 + j) * 16 + k) * 16 + l := by
  unfold hexNumber?
  simp only [bind, Option.bind_eq_some_iff, CodePoint.ofNat?_eq_some_iff]
  constructor
  · rintro ⟨i, hi, j, hj, k, hk, l, hl, hp⟩
    exact ⟨i, j, k, l, hi, hj, hk, hl, hp⟩
  · rintro ⟨i, j, k, l, hi, hj, hk, hl, hp⟩
    exact ⟨i, hi, j, hj, k, hk, l, hl, hp⟩

/-! ## Joining halves -/

@[simp] theorem joinPieces_plain (c : CodePoint) (ps : List Piece) :
    joinPieces (.plain c :: ps) = c :: joinPieces ps := by
  simp [joinPieces, Piece.point]

@[simp] theorem joinPieces_unit_nil (c : CodePoint) : joinPieces [.unit c] = [c] := by
  simp [joinPieces, Piece.point]

@[simp] theorem joinPieces_unit_plain (c d : CodePoint) (ps : List Piece) :
    joinPieces (.unit c :: .plain d :: ps) = c :: d :: joinPieces ps := by
  simp [joinPieces, Piece.point]

theorem joinPieces_pair {high low : CodePoint} (hh : high.isHigh = true) (hl : low.isLow = true) (ps : List Piece) :
    joinPieces (.unit high :: .unit low :: ps) = CodePoint.join high low :: joinPieces ps := by
  simp [joinPieces, hh, hl]

theorem joinPieces_unit_unit {c d : CodePoint} (h : ¬ (c.isHigh = true ∧ d.isLow = true)) (ps : List Piece) :
    joinPieces (.unit c :: .unit d :: ps) = c :: joinPieces (.unit d :: ps) := by
  rw [joinPieces, if_neg h]

/-- A half is kept where what follows is not the other half, by its number. -/
theorem joinPieces_unit_cons {c : CodePoint} {ps : List Piece}
    (h : ∀ low rest, ps = .unit low :: rest → ¬ (c.isHigh = true ∧ low.isLow = true)) :
    joinPieces (.unit c :: ps) = c :: joinPieces ps := by
  cases ps with
  | nil => exact joinPieces_unit_nil c
  | cons p rest =>
    cases p with
    | plain d => rw [joinPieces_unit_plain, joinPieces_plain]
    | unit d => exact joinPieces_unit_unit (h d rest rfl) rest

/-! ## Strings -/

/-- The text of the points read so far, last first, and the pieces to come; a high half that was read last may still
find its other half. -/
def pending : (done : Text) → (afterHigh : Bool) → List Piece → Text
  | high :: earlier, true, ps => earlier.reverse ++ joinPieces (.unit high :: ps)
  | done, _, ps => done.reverse ++ joinPieces ps

theorem pending_nil (done : Text) (afterHigh : Bool) : pending done afterHigh [] = done.reverse := by
  cases done <;> cases afterHigh <;> simp [pending, joinPieces, Piece.point]

theorem pending_plain (done : Text) (afterHigh : Bool) (c : CodePoint) (ps : List Piece) :
    pending done afterHigh (.plain c :: ps) = pending (c :: done) false ps := by
  cases done <;> cases afterHigh <;> simp [pending]

theorem pending_unit_start (c : CodePoint) (done : Text) (ps : List Piece) :
    done.reverse ++ joinPieces (.unit c :: ps) = pending (c :: done) c.isHigh ps := by
  cases h : c.isHigh with
  | true => rfl
  | false =>
    have hkept : joinPieces (.unit c :: ps) = c :: joinPieces ps :=
      joinPieces_unit_cons fun _ _ _ hpair => by simp [h] at hpair
    simp [pending, hkept]

/-- What is read last is a high half if it is said to be one. -/
def EndsHigh (done : Text) (afterHigh : Bool) : Prop :=
  afterHigh = true → ∃ high earlier, done = high :: earlier ∧ high.isHigh = true

theorem pending_unit {done : Text} {afterHigh : Bool} (h : EndsHigh done afterHigh) (c : CodePoint) (ps : List Piece) :
    pending done afterHigh (.unit c :: ps) = pending (addEscaped c afterHigh done) c.isHigh ps := by
  cases afterHigh with
  | false =>
    cases done with
    | nil => exact pending_unit_start c [] ps
    | cons d earlier => exact pending_unit_start c (d :: earlier) ps
  | true =>
    obtain ⟨high, earlier, rfl, hhigh⟩ := h rfl
    by_cases hc : c.isLow = true
    · simp [pending, joinPieces_pair hhigh hc, addEscaped, hc, CodePoint.isHigh_of_isLow hc]
    · have hpair : ¬ (high.isHigh = true ∧ c.isLow = true) := fun hp => hc hp.2
      have hstart := pending_unit_start c (high :: earlier) ps
      simpa [pending, joinPieces_unit_unit hpair, addEscaped, hc] using hstart

theorem endsHigh_addEscaped (c : CodePoint) (afterHigh : Bool) (done : Text) :
    EndsHigh (addEscaped c afterHigh done) c.isHigh := by
  intro hc
  cases done with
  | nil => exact ⟨c, [], rfl, hc⟩
  | cons d earlier =>
    have hlow : c.isLow = false := by
      refine Bool.eq_false_iff.2 fun hl => ?_
      rw [CodePoint.isHigh_of_isLow hl] at hc
      cases hc
    exact ⟨c, d :: earlier, by simp [addEscaped, hlow], hc⟩

theorem EndsHigh.false (done : Text) : EndsHigh done false := fun h => by cases h

/-- What the scanner reads is a string of the grammar. -/
theorem pieces_of_scanString {opening done t s u : Text} {afterHigh : Bool} (hend : EndsHigh done afterHigh)
    (h : scanString opening done afterHigh t = .ok (s, u)) : ∃ ps, Pieces t ps u ∧ s = pending done afterHigh ps := by
  fun_induction scanString opening done afterHigh t with
  | case2 done afterHigh rest =>
    cases h
    exact ⟨[], .close, (pending_nil _ _).symm⟩
  | case5 done afterHigh _ _ _ _ next afterDigits p hp _ _ ih =>
    obtain ⟨ps, hps, rfl⟩ := ih (endsHigh_addEscaped p afterHigh done) h
    obtain ⟨i, j, k, l, hi, hj, hk, hl, hval⟩ := hexNumber?_eq_some_iff.1 hp
    exact ⟨.unit p :: ps, .more (.number hi hj hk hl hval) hps, (pending_unit hend p ps).symm⟩
  | case8 done afterHigh e afterLetter _ p hp _ _ ih =>
    obtain ⟨ps, hps, rfl⟩ := ih (EndsHigh.false _) h
    exact ⟨.plain p :: ps, .more (.letter (shortEscape?_eq_some_iff.1 hp)) hps, (pending_plain _ _ _ _).symm⟩
  | case10 done afterHigh c rest hquote hcontrol hslash ih =>
    obtain ⟨ps, hps, rfl⟩ := ih (EndsHigh.false _) h
    exact ⟨.plain c :: ps, .more (.raw (Nat.le_of_not_lt hcontrol) hquote hslash) hps, (pending_plain _ _ _ _).symm⟩
  | _ => cases h

theorem Pieces.ne_nil {t u : Text} {ps : List Piece} (h : Pieces t ps u) : t ≠ [] := by
  cases h with
  | close => simp
  | more hp _ => cases hp <;> simp

theorem scanString_plain {opening done t u : Text} {afterHigh : Bool} {c : CodePoint} (h : Spelled t (.plain c) u) :
    scanString opening done afterHigh t = scanString opening (c :: done) false u := by
  cases h with
  | raw hc hquote hslash =>
    rw [scanString.eq_def]
    simp [hquote, hslash, Nat.not_lt.2 hc]
  | letter he =>
    rename_i e
    have hu : e ≠ 'u' := fun hu => not_mem_letters_u c (hu ▸ he)
    have hbackslash : ('\\' : CodePoint) ≠ '"' := by decide
    have hcontrol : ¬ ('\\' : CodePoint).val < 0x20 := by decide
    rw [scanString.eq_def]
    simp [hbackslash, hcontrol, hu, shortEscape?_eq_some_iff.2 he]

theorem scanString_unit {opening done t u : Text} {afterHigh : Bool} {p : CodePoint} (h : Spelled t (.unit p) u)
    (hu : u ≠ []) :
    scanString opening done afterHigh t = scanString opening (addEscaped p afterHigh done) p.isHigh u := by
  obtain ⟨next, rest, rfl⟩ := List.exists_cons_of_ne_nil hu
  cases h with
  | number hi hj hk hl hval =>
    have hbackslash : ('\\' : CodePoint) ≠ '"' := by decide
    have hcontrol : ¬ ('\\' : CodePoint).val < 0x20 := by decide
    rw [scanString.eq_def]
    simp [hbackslash, hcontrol, hexNumber?_eq_some_iff.2 ⟨_, _, _, _, hi, hj, hk, hl, hval⟩]

/-- A string of the grammar is read as the text that it denotes. -/
theorem scanString_of_pieces {opening t u : Text} {ps : List Piece} (h : Pieces t ps u) {done : Text} {afterHigh : Bool}
    (hend : EndsHigh done afterHigh) : scanString opening done afterHigh t = .ok (pending done afterHigh ps, u) := by
  induction h generalizing done afterHigh with
  | close =>
    rw [scanString.eq_def, pending_nil]
    simp
  | @more p ps t u w hp hps ih =>
    cases p with
    | plain c => rw [scanString_plain hp, ih (EndsHigh.false _), pending_plain]
    | unit c => rw [scanString_unit hp hps.ne_nil, ih (endsHigh_addEscaped c afterHigh done), pending_unit hend]

/-- **The scanner of strings reads exactly the strings of the grammar.** -/
theorem scanString_iff {opening t s u : Text} :
    scanString opening [] false t = .ok (s, u) ↔ Quoted ('"' :: t) s u := by
  constructor
  · intro h
    obtain ⟨ps, hps, rfl⟩ := pieces_of_scanString (EndsHigh.false _) h
    exact .intro hps
  · rintro ⟨hps⟩
    exact scanString_of_pieces hps (EndsHigh.false _)

/-- What is no string of the grammar has a fault; no limit stops the scanner. -/
theorem scanString_error {opening done t : Text} {afterHigh : Bool} {stop : Stop}
    (h : scanString opening done afterHigh t = .error stop) : ∃ what rest, stop = .fault what rest := by
  fun_induction scanString opening done afterHigh t with
  | case2 => cases h
  | case5 _ _ _ _ _ _ _ _ _ _ _ _ ih => exact ih h
  | case8 _ _ _ _ _ _ _ _ _ ih => exact ih h
  | case10 _ _ _ _ _ _ _ ih => exact ih h
  | _ =>
    cases h
    exact ⟨_, _, rfl⟩

end Json

end MonitorIntake
