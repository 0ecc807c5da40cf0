import MonitorIntake.Json.Writer
import MonitorIntake.Proofs.Json.Tokens
import MonitorIntake.Proofs.Text.Pairs

/-!
# Strings as they are written

* **A string in ASCII denotes the text with its surrogate pairs joined** (`quoted_string`). Every code point is written
  as one or two pieces (`asciiPieces`): a code point above U+FFFF is written as the two halves that are joined again,
  and so a pair that was in the text already is joined with it.
* **A string in a report denotes the text itself** (`quoted_reported`), as only control characters are written by their
  numbers.
-/

namespace MonitorIntake

namespace CodePoint

/-- The high half of a code point above U+FFFF. -/
def highHalf (c : CodePoint) : CodePoint := ⟨0xD800 + (c.val - 0x10000) / 0x400, by have := c.isLt; omega⟩

/-- The low half of a code point above U+FFFF. -/
def lowHalf (c : CodePoint) : CodePoint := ⟨0xDC00 + (c.val - 0x10000) % 0x400, by omega⟩

theorem isHigh_highHalf (c : CodePoint) : c.highHalf.isHigh = true := by
  have := c.isLt
  rw [isHigh_iff]
  simp only [highHalf]
  omega

theorem isLow_lowHalf (c : CodePoint) : c.lowHalf.isLow = true := by
  rw [isLow_iff]
  simp only [lowHalf]
  omega

theorem join_halves {c : CodePoint} (h : 0x10000 ≤ c.val) : join c.highHalf c.lowHalf = c := by
  refine ext ?_
  rw [val_join c.isHigh_highHalf c.isLow_lowHalf]
  simp only [highHalf, lowHalf]
  omega

end CodePoint

namespace Json

/-! ## Pieces -/

/-- The pieces as which a code point is written in ASCII. -/
def asciiPieces (c : CodePoint) : List Piece :=
  if (letterEscape? c).isSome ∨ (0x20 ≤ c.val ∧ c.val ≤ 0x7E) then [.plain c]
  else if c.val < 0x10000 then [.unit c]
  else [.unit c.highHalf, .unit c.lowHalf]

theorem mem_letters_of_letterEscape? {c : CodePoint} {t : Text} (h : letterEscape? c = some t) :
    ∃ e, t = [('\\' : CodePoint), e] ∧ (e, c) ∈ letters := by
  unfold letterEscape? at h
  repeat' split at h
  all_goals
    cases h
    try subst c
    try exact ⟨_, rfl, by decide⟩

theorem not_special_of_letterEscape? {c : CodePoint} (h : letterEscape? c = none) : c ≠ '"' ∧ c ≠ '\\' := by
  constructor <;> rintro rfl <;> simp [letterEscape?] at h

theorem hexValue?_ofHexDigit (d : Nat) : (CodePoint.ofHexDigit d).hexValue? = some (d % 16) := by
  have h : ∀ k < 16, (CodePoint.ofHexDigit k).hexValue? = some k := by decide
  have hmod : CodePoint.ofHexDigit d = CodePoint.ofHexDigit (d % 16) := by
    simp only [CodePoint.ofHexDigit, Nat.mod_mod]
  rw [hmod]
  exact h _ (Nat.mod_lt _ (by decide))

/-- A code point below U+10000 is read back from its number. -/
theorem spelled_unitEscape {c : CodePoint} (h : c.val < 0x10000) (u : Text) :
    Spelled (unitEscape c.val ++ u) (.unit c) u := by
  have hhex : unitEscape c.val ++ u = ('\\' : CodePoint) :: ('u' : CodePoint) ::
      .ofHexDigit (c.val / 16 / 16 / 16) :: .ofHexDigit (c.val / 16 / 16) :: .ofHexDigit (c.val / 16) ::
      .ofHexDigit c.val :: u := rfl
  rw [hhex]
  refine .number (hexValue?_ofHexDigit _) (hexValue?_ofHexDigit _) (hexValue?_ofHexDigit _) (hexValue?_ofHexDigit _) ?_
  omega

/-- **A code point is written as its pieces.** -/
theorem pieces_asciiPoint (c : CodePoint) {t u : Text} {ps : List Piece} (h : Pieces t ps u) :
    Pieces (asciiPoint c ++ t) (asciiPieces c ++ ps) u := by
  unfold asciiPoint asciiPieces
  cases hletter : letterEscape? c with
  | some e =>
    obtain ⟨l, rfl, hl⟩ := mem_letters_of_letterEscape? hletter
    simp only [Option.isSome_some, true_or, if_true]
    exact .more (.letter hl) h
  | none =>
    simp only [Option.isSome_none, Bool.false_eq_true, false_or]
    split
    · next hplain =>
      obtain ⟨hquote, hslash⟩ := not_special_of_letterEscape? hletter
      exact .more (.raw hplain.1 hquote hslash) h
    · split
      · next hunit => exact .more (spelled_unitEscape hunit _) h
      · have hc := c.isLt
        rw [List.append_assoc]
        refine .more (spelled_unitEscape (c := c.highHalf) ?_ _) (.more (spelled_unitEscape (c := c.lowHalf) ?_ _) h)
        · simp only [CodePoint.highHalf]
          omega
        · simp only [CodePoint.lowHalf]
          omega

/-! ## Joined pieces -/

/-- A surrogate is written by its number. -/
theorem asciiPieces_of_surrogate {c : CodePoint} (h : 0xD800 ≤ c.val ∧ c.val ≤ 0xDFFF) : asciiPieces c = [.unit c] := by
  have hletter : letterEscape? c = none := by
    cases hl : letterEscape? c with
    | none => rfl
    | some t =>
      obtain ⟨e, -, he⟩ := mem_letters_of_letterEscape? hl
      simp only [letters, List.mem_cons, Prod.mk.injEq, List.not_mem_nil, or_false] at he
      rcases he with ⟨-, rfl⟩ | ⟨-, rfl⟩ | ⟨-, rfl⟩ | ⟨-, rfl⟩ | ⟨-, rfl⟩ | ⟨-, rfl⟩ | ⟨-, rfl⟩ | ⟨-, rfl⟩ <;>
        exact absurd h (by decide)
  rw [asciiPieces, hletter, if_neg (by simp; omega), if_pos (by omega)]

/-- A code point that is no low surrogate does not begin with one. -/
theorem asciiPieces_not_low {d low : CodePoint} {ps rest : List Piece} (hd : d.isLow = false)
    (h : asciiPieces d ++ ps = .unit low :: rest) : low.isLow = false := by
  unfold asciiPieces at h
  split at h
  · cases h
  · split at h
    · cases h
      exact hd
    · cases h
      have := CodePoint.isHigh_iff.1 d.isHigh_highHalf
      rw [← Bool.not_eq_true, CodePoint.isLow_iff]
      omega

/-- A code point is kept unless it is a high surrogate with a low one after it. -/
theorem joinPieces_asciiPieces_append {c : CodePoint} {ps : List Piece}
    (h : c.isHigh = true → ∀ low rest, ps = .unit low :: rest → low.isLow = false) :
    joinPieces (asciiPieces c ++ ps) = c :: joinPieces ps := by
  unfold asciiPieces
  split
  · exact joinPieces_plain c ps
  · split
    · refine joinPieces_unit_cons fun low rest hps hpair => ?_
      rw [h hpair.1 low rest hps] at hpair
      cases hpair.2
    · next hlarge =>
      have hpair := joinPieces_pair c.isHigh_highHalf c.isLow_lowHalf ps
      rw [CodePoint.join_halves (Nat.not_lt.1 hlarge)] at hpair
      exact hpair

/-- **The pieces of a text denote it with its surrogate pairs joined.** -/
theorem joinPieces_asciiPieces (t : Text) : joinPieces (t.flatMap asciiPieces) = t.joinPairs := by
  induction t using Text.joinPairs.induct with
  | case1 high low rest h ih =>
    have hhigh := CodePoint.isHigh_iff.1 h.1
    have hlow := CodePoint.isLow_iff.1 h.2
    rw [List.flatMap_cons, List.flatMap_cons, asciiPieces_of_surrogate (by omega), asciiPieces_of_surrogate (by omega),
      Text.joinPairs, if_pos h, ← ih]
    exact joinPieces_pair h.1 h.2 _
  | case2 high low rest h ih =>
    rw [List.flatMap_cons, Text.joinPairs, if_neg h, ← ih]
    refine joinPieces_asciiPieces_append fun hhigh low' rest' hps => ?_
    rw [List.flatMap_cons] at hps
    exact asciiPieces_not_low (Bool.eq_false_iff.2 fun hlow => h ⟨hhigh, hlow⟩) hps
  | case3 c =>
    rw [List.flatMap_cons]
    exact joinPieces_asciiPieces_append fun _ _ _ hps => by cases hps
  | case4 => rfl

/-! ## Strings -/

theorem pieces_asciiPoints (t u : Text) :
    Pieces (t.flatMap asciiPoint ++ ('"' : CodePoint) :: u) (t.flatMap asciiPieces) u := by
  induction t with
  | nil => exact .close
  | cons c t ih =>
    rw [List.flatMap_cons, List.flatMap_cons, List.append_assoc]
    exact pieces_asciiPoint c ih

/-- **A string in ASCII denotes the text with its surrogate pairs joined.** -/
theorem quoted_string (t u : Text) : Quoted (ascii.string t ++ u) t.joinPairs u := by
  have htext : ascii.string t ++ u = ('"' : CodePoint) :: (t.flatMap asciiPoint ++ ('"' : CodePoint) :: u) := by
    simp [Spelling.string, Text.between, ascii]
  rw [htext, ← joinPieces_asciiPieces]
  exact .intro (pieces_asciiPoints t u)

/-! ## Strings in reports -/

/-- The piece as which a code point is written in a report. -/
def plainPiece (c : CodePoint) : Piece := if (letterEscape? c).isNone ∧ c.val < 0x20 then .unit c else .plain c

theorem pieces_plainPoint (c : CodePoint) {t u : Text} {ps : List Piece} (h : Pieces t ps u) :
    Pieces (plainPoint c ++ t) (plainPiece c :: ps) u := by
  unfold plainPoint plainPiece
  cases hletter : letterEscape? c with
  | some e =>
    obtain ⟨l, rfl, hl⟩ := mem_letters_of_letterEscape? hletter
    exact .more (.letter hl) h
  | none =>
    simp only [Option.isNone_none, true_and]
    split
    · next hcontrol => exact .more (spelled_unitEscape (Nat.lt_trans hcontrol (by decide)) _) h
    · next hvisible =>
      obtain ⟨hquote, hslash⟩ := not_special_of_letterEscape? hletter
      exact .more (.raw (Nat.not_lt.1 hvisible) hquote hslash) h

theorem pieces_plainPoints (t u : Text) :
    Pieces (t.flatMap plainPoint ++ ('"' : CodePoint) :: u) (t.map plainPiece) u := by
  induction t with
  | nil => exact .close
  | cons c t ih =>
    rw [List.flatMap_cons, List.map_cons, List.append_assoc]
    exact pieces_plainPoint c ih

/-- A control character is no half of a pair. -/
theorem joinPieces_plainPieces (t : Text) : joinPieces (t.map plainPiece) = t := by
  induction t with
  | nil => rfl
  | cons c t ih =>
    rw [List.map_cons, plainPiece]
    split
    · next hcontrol =>
      have hhigh : c.isHigh = false := by
        rw [← Bool.not_eq_true, CodePoint.isHigh_iff]
        omega
      rw [joinPieces_unit_cons fun low rest _ hpair => by simp [hhigh] at hpair, ih]
    · rw [joinPieces_plain, ih]

/-- **A string in a report denotes the text itself.** -/
theorem quoted_reported (t u : Text) : Quoted (reported.string t ++ u) t u := by
  have hquoted : Quoted (('"' : CodePoint) :: (t.flatMap plainPoint ++ ('"' : CodePoint) :: u))
      (joinPieces (t.map plainPiece)) u := .intro (pieces_plainPoints t u)
  rw [joinPieces_plainPieces] at hquoted
  simpa [Spelling.string, Text.between, reported] using hquoted

end Json

end MonitorIntake
