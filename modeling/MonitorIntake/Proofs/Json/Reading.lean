import MonitorIntake.Proofs.Json.Numerals

/-!
# Values: the reader and the grammar

* **Completeness** (`scanValue_of_value`): a value within the limits of the reader is read as what it denotes. The
  induction is on the derivation; what follows a value must not go on with a number (`NumberEnds`), and the fuel must
  be twice the length of the text.
* **Soundness** (`scan_sound`): what is read is a value of the grammar within the limits. The three scanners are taken
  together, by induction on their fuel, with one relation for what a step of each can do (`ValueStep` and its kin).
* **Documents** (`read_eq_ok_iff`): a text is read iff it is a document within the limits, as the value that it denotes.
-/

namespace MonitorIntake.Json

/-! ## One step of the scanner -/

section Steps

variable {fuel depth : Nat} {t : Text}

theorem scanValue_quote : scanValue (fuel + 1) depth ('"' :: t) =
    match scanString ('"' :: t) [] false t with
    | .ok (s, u) => .ok (.string s, u)
    | .error stop => .error stop := by
  cases hscan : scanString ('"' :: t) [] false t <;> (rw [scanValue.eq_def]; simp only [if_pos, hscan])

theorem scanValue_bracket_zero : scanValue (fuel + 1) 0 ('[' :: t) = .error .tooDeep := by
  rw [scanValue, if_neg (by decide), if_pos rfl]

theorem scanValue_bracket : scanValue (fuel + 1) (depth + 1) ('[' :: t) =
    match skipGap t with
    | [] => .error (.fault .noValue [])
    | c :: u => if c = ']' then .ok (.array [], u) else scanItems fuel depth [] (c :: u) := by
  cases hskip : skipGap t <;> (rw [scanValue, if_neg (by decide), if_pos rfl]; simp only [hskip])

theorem scanValue_brace_zero : scanValue (fuel + 1) 0 ('\x7b' :: t) = .error .tooDeep := by
  rw [scanValue, if_neg (by decide), if_neg (by decide), if_pos rfl]

theorem scanValue_brace : scanValue (fuel + 1) (depth + 1) ('\x7b' :: t) =
    match skipGap t with
    | [] => .error (.fault .noName [])
    | c :: u => if c = '\x7d' then .ok (.object [], u) else scanMembers fuel depth [] (c :: u) := by
  cases hskip : skipGap t <;>
    (rw [scanValue, if_neg (by decide), if_neg (by decide), if_pos rfl]; simp only [hskip])

theorem scanValue_atom {c : CodePoint} (hquote : c ≠ '"') (hbracket : c ≠ '[') (hbrace : c ≠ '\x7b') :
    scanValue (fuel + 1) depth (c :: t) = scanAtom (c :: t) := by
  rw [scanValue.eq_def]
  simp only [if_neg hquote, if_neg hbracket, if_neg hbrace]

end Steps

/-! ## Words and numbers -/

theorem find_word {w t : Text} {v : Json} (h : (w, v) ∈ words) :
    words.find? (fun p => p.1.isPrefixOf (w ++ t)) = some (w, v) := by
  simp only [words, List.mem_cons, Prod.mk.injEq, List.not_mem_nil, or_false] at h
  rcases h with ⟨rfl, rfl⟩ | ⟨rfl, rfl⟩ | ⟨rfl, rfl⟩ | ⟨rfl, rfl⟩ | ⟨rfl, rfl⟩ | ⟨rfl, rfl⟩ <;> rfl

/-- A word begins with a letter, or with a minus sign and a letter. -/
theorem not_isDigit_of_word {w t : Text} {v : Json} {c : CodePoint} (h : (w, v) ∈ words) (hw : w <+: c :: t) :
    c.isDigit = false ∧ (c = '-' → ¬ StartsDigit t) := by
  simp only [words, List.mem_cons, Prod.mk.injEq, List.not_mem_nil, or_false] at h
  obtain ⟨u, hu⟩ := hw
  rcases h with ⟨rfl, rfl⟩ | ⟨rfl, rfl⟩ | ⟨rfl, rfl⟩ | ⟨rfl, rfl⟩ | ⟨rfl, rfl⟩ | ⟨rfl, rfl⟩
  all_goals
    cases hu
    first
    | exact ⟨by decide, fun hc => absurd hc (by decide)⟩
    | exact ⟨by decide, fun _ => startsDigit_iff.not.2 (by decide)⟩

/-- No word begins like a number. -/
theorem find_word_of_number {t u : Text} {n : Numeral} (h : Number t n u) :
    words.find? (fun p => p.1.isPrefixOf t) = none := by
  rw [List.find?_eq_none]
  rintro ⟨w, v⟩ hmem hw
  have hprefix := List.isPrefixOf_iff_prefix.1 hw
  cases h with
  | positive hwhole _ _ =>
    obtain ⟨c, rest, rfl, hc⟩ := hwhole.digits.startsDigit
    rw [(not_isDigit_of_word hmem hprefix).1] at hc
    cases hc
  | negative hwhole _ _ => exact (not_isDigit_of_word hmem hprefix).2 rfl hwhole.digits.startsDigit

theorem scanAtom_word {w t : Text} {v : Json} (h : (w, v) ∈ words) : scanAtom (w ++ t) = .ok (v, t) := by
  simp only [scanAtom, find_word h, List.drop_left]

theorem scanAtom_number {t u : Text} {n : Numeral} (h : Number t n u) (hu : NumberEnds u) :
    scanAtom t = n.value.map (·, u) := by
  simp only [scanAtom, find_word_of_number h, scanNumeral?_of_number h hu]
  cases n.value <;> rfl

theorem value_of_scanAtom {k : Nat} {t u : Text} {v : Json} (h : scanAtom t = .ok (v, u)) :
    Value .bounded k t v u := by
  unfold scanAtom at h
  split at h
  · next w v' hfind =>
    have hstarts : w.isPrefixOf t = true := by simpa using List.find?_some hfind
    obtain ⟨u', rfl⟩ := List.isPrefixOf_iff_prefix.1 hstarts
    rw [List.drop_left] at h
    cases h
    exact .word (List.mem_of_find?_eq_some hfind)
  · split at h
    · cases h
    · next n rest hscan =>
      cases hvalue : n.value with
      | error stop => simp [hvalue, bind, Except.bind] at h
      | ok v' =>
        simp only [hvalue, bind, Except.bind, pure, Except.pure, Except.ok.injEq, Prod.mk.injEq] at h
        obtain ⟨rfl, rfl⟩ := h
        obtain ⟨rfl, hdigits⟩ := Numeral.value_eq_ok_iff.1 hvalue
        exact .number (number_of_scanNumeral? hscan).1 hdigits

/-! ## Where values begin and numbers end -/

theorem numberEnds_nil : NumberEnds [] := by
  refine ⟨?_, fun f u h => ?_, fun e u h => ?_⟩
  · rintro ⟨c, u, h, -⟩
    cases h
  · cases h
    rfl
  · cases h
    rfl

theorem numberEnds_cons {c : CodePoint} {t : Text} (hdigit : c.isDigit = false) (hpoint : c ≠ '.')
    (hletter : ¬ (c = 'e' ∨ c = 'E')) : NumberEnds (c :: t) := by
  refine ⟨?_, fun f u h => ?_, fun e u h => ?_⟩
  · rw [startsDigit_iff, hdigit]
    exact Bool.false_ne_true
  · cases h with
    | none => rfl
    | some _ => exact absurd rfl hpoint
  · cases h with
    | none => rfl
    | some h _ _ => exact absurd h hletter

/-- A number does not go on with white space. -/
theorem Gap.numberEnds {t u : Text} (h : Gap t u) (hu : NumberEnds u) : NumberEnds t := by
  cases h with
  | none => exact hu
  | more hc _ =>
    refine numberEnds_cons ?_ ?_ ?_
    · simp only [CodePoint.isDigit, Bool.and_eq_false_iff, decide_eq_false_iff_not]
      omega
    · rintro rfl
      revert hc
      decide
    · rintro (rfl | rfl) <;> revert hc <;> decide

/-- The text begins with an ASCII character that is neither white space nor the end of a container. -/
def Begins (t : Text) : Prop :=
  ∃ c rest, t = c :: rest ∧ isGap c = false ∧ c ≠ ']' ∧ c ≠ '\x7d' ∧ c.val < 0x80

theorem begins_cons {c : Char} {t : Text} (hgap : isGap c = false) (hbracket : c ≠ ']') (hbrace : c ≠ '\x7d')
    (hascii : c.toNat < 0x80) : Begins (c :: t) :=
  ⟨c, t, rfl, hgap, by simpa using hbracket, by simpa using hbrace, hascii⟩

theorem StartsDigit.begins {t : Text} (h : StartsDigit t) : Begins t := by
  obtain ⟨c, rest, rfl, hc⟩ := h
  simp only [CodePoint.isDigit, Bool.and_eq_true, decide_eq_true_eq] at hc
  refine ⟨c, rest, rfl, ?_, ?_, ?_, by omega⟩
  · rw [← Bool.not_eq_true, isGap_iff]
    omega
  · rw [Ne, CodePoint.eq_ofChar_iff, show (']' : Char).toNat = 0x5D from rfl]
    omega
  · rw [Ne, CodePoint.eq_ofChar_iff, show ('\x7d' : Char).toNat = 0x7D from rfl]
    omega

theorem Begins.skipGap_eq {t : Text} (h : Begins t) : skipGap t = t := by
  obtain ⟨c, rest, rfl, hgap, -⟩ := h
  exact skipGap_cons hgap

theorem Number.begins {t u : Text} {n : Numeral} (h : Number t n u) : Begins t := by
  cases h with
  | positive hw _ _ => exact hw.digits.startsDigit.begins
  | negative _ _ _ => exact begins_cons (by decide) (by decide) (by decide) (by decide)

theorem Quoted.begins {t s u : Text} (h : Quoted t s u) : Begins t := by
  cases h
  exact begins_cons (by decide) (by decide) (by decide) (by decide)

theorem Named.begins {t name u : Text} (h : Named t name u) : Begins t := by
  cases h with
  | intro hq _ _ => exact hq.begins

theorem Value.begins {D : Dialect} {k : Nat} {t u : Text} {v : Json} (h : Value D k t v u)
    (hD : D.words ⊆ words := by exact fun _ h => h) : Begins t := by
  cases h with
  | word hw =>
    have hw := hD hw
    simp only [words, List.mem_cons, Prod.mk.injEq, List.not_mem_nil, or_false] at hw
    rcases hw with ⟨rfl, rfl⟩ | ⟨rfl, rfl⟩ | ⟨rfl, rfl⟩ | ⟨rfl, rfl⟩ | ⟨rfl, rfl⟩ | ⟨rfl, rfl⟩ <;>
      exact begins_cons (by decide) (by decide) (by decide) (by decide)
  | number hn _ => exact hn.begins
  | string hs => exact hs.begins
  | _ => exact begins_cons (by decide) (by decide) (by decide) (by decide)

theorem Items.begins {D : Dialect} {k : Nat} {t u : Text} {vs : List Json} (h : Items D k t vs u)
    (hD : D.words ⊆ words := by exact fun _ h => h) : Begins t := by
  cases h with
  | last hv _ => exact hv.begins hD
  | more hv _ _ _ => exact hv.begins hD

theorem Pairs.begins {D : Dialect} {k : Nat} {t u : Text} {ps : Members} (h : Pairs D k t ps u) : Begins t := by
  cases h with
  | last hn _ _ => exact hn.begins
  | more hn _ _ _ _ => exact hn.begins

/-! ## What is left -/

/-- A text and what is left of it after some of it is taken. -/
structure Leaves (t u : Text) : Prop where
  suffix : u <:+ t
  length_lt : u.length < t.length

theorem Gap.suffix {t u : Text} (h : Gap t u) : u <:+ t := by
  induction h with
  | none => exact List.suffix_rfl
  | more _ _ ih => exact ih.trans (List.suffix_cons _ _)

section Leaves

variable {t u w : Text} {c : CodePoint}

theorem leaves_cons (h : u <:+ t) : Leaves (c :: t) u :=
  ⟨h.trans (List.suffix_cons _ _), Nat.lt_succ_of_le h.length_le⟩

theorem leaves_append (hw : w ≠ []) : Leaves (w ++ t) t := by
  refine ⟨List.suffix_append _ _, ?_⟩
  have := List.length_pos_iff.2 hw
  rw [List.length_append]
  omega

theorem Leaves.suffix_trans (h : Leaves t u) (h' : w <:+ u) : Leaves t w :=
  ⟨h'.trans h.suffix, Nat.lt_of_le_of_lt h'.length_le h.length_lt⟩

theorem Leaves.trans (h : Leaves t u) (h' : Leaves u w) : Leaves t w := h.suffix_trans h'.suffix

theorem Leaves.gap (h : Leaves t u) (hg : Gap u w) : Leaves t w := h.suffix_trans hg.suffix

theorem Leaves.gap_cons (h : Leaves t u) (hg : Gap u (c :: w)) : Leaves t w :=
  (h.gap hg).trans (leaves_cons List.suffix_rfl)

end Leaves

theorem Spelled.leaves {t u : Text} {p : Piece} (h : Spelled t p u) : Leaves t u := by
  cases h with
  | raw _ _ _ => exact leaves_cons List.suffix_rfl
  | letter _ => exact leaves_cons (List.suffix_cons _ _)
  | @number a b c d => exact leaves_append (List.cons_ne_nil _ [_, a, b, c, d])

theorem Pieces.leaves {t u : Text} {ps : List Piece} (h : Pieces t ps u) : Leaves t u := by
  induction h with
  | close => exact leaves_cons List.suffix_rfl
  | more hp _ ih => exact hp.leaves.trans ih

theorem Quoted.leaves {t s u : Text} (h : Quoted t s u) : Leaves t u := by
  cases h with
  | intro hps => exact leaves_cons hps.leaves.suffix

theorem Named.leaves {t name u : Text} (h : Named t name u) : Leaves t u := by
  cases h with
  | intro hq hg hg' => exact (hq.leaves.gap_cons hg).gap hg'

theorem Digits.leaves {t ds u : Text} (h : Digits t ds u) : Leaves t u := by
  obtain ⟨rfl, hne, -⟩ := h
  exact leaves_append hne

theorem Fraction.suffix {t f u : Text} (h : Fraction t f u) : u <:+ t := by
  cases h with
  | none => exact List.suffix_rfl
  | some hds => exact (leaves_cons hds.leaves.suffix).suffix

theorem Exponent.suffix {t u : Text} {e : Option (Bool × Text)} (h : Exponent t e u) : u <:+ t := by
  cases h with
  | none => exact List.suffix_rfl
  | some _ hs hds =>
    refine (leaves_cons (hds.leaves.suffix.trans ?_)).suffix
    cases hs with
    | none => exact List.suffix_rfl
    | plus => exact List.suffix_cons _ _
    | minus => exact List.suffix_cons _ _

theorem Number.leaves {t u : Text} {n : Numeral} (h : Number t n u) : Leaves t u := by
  cases h with
  | positive hw hf he => exact hw.digits.leaves.suffix_trans (he.suffix.trans hf.suffix)
  | negative hw hf he => exact leaves_cons ((he.suffix.trans hf.suffix).trans hw.digits.leaves.suffix)

theorem word_ne_nil {w : Text} {v : Json} (h : (w, v) ∈ words) : w ≠ [] :=
  (by decide : ∀ p ∈ words, p.1 ≠ []) (w, v) h

mutual

/-- A value takes some of the text. -/
theorem Value.leaves {D : Dialect} : ∀ {k : Nat} {t : Text} {v : Json} {u : Text},
    Value D k t v u → (hD : D.words ⊆ words := by exact fun _ h => h) → Leaves t u
  | _, _, _, _, .word hw, hD => leaves_append (word_ne_nil (hD hw))
  | _, _, _, _, .number hn _, _ => hn.leaves
  | _, _, _, _, .string hs, _ => hs.leaves
  | _, _, _, _, .emptyArray _ hg, _ => leaves_cons ((List.suffix_cons _ _).trans hg.suffix)
  | _, _, _, _, .array _ hg h, hD => leaves_cons ((Items.leaves h hD).suffix.trans hg.suffix)
  | _, _, _, _, .emptyObject _ hg, _ => leaves_cons ((List.suffix_cons _ _).trans hg.suffix)
  | _, _, _, _, .object _ hg h _, hD => leaves_cons ((Pairs.leaves h hD).suffix.trans hg.suffix)

theorem Items.leaves {D : Dialect} : ∀ {k : Nat} {t : Text} {vs : List Json} {u : Text},
    Items D k t vs u → (hD : D.words ⊆ words := by exact fun _ h => h) → Leaves t u
  | _, _, _, _, .last hv hg, hD => (Value.leaves hv hD).gap_cons hg
  | _, _, _, _, .more hv hg hg' h, hD => (((Value.leaves hv hD).gap_cons hg).gap hg').trans (Items.leaves h hD)

theorem Pairs.leaves {D : Dialect} : ∀ {k : Nat} {t : Text} {ps : Members} {u : Text},
    Pairs D k t ps u → (hD : D.words ⊆ words := by exact fun _ h => h) → Leaves t u
  | _, _, _, _, .last hn hv hg, hD => (hn.leaves.trans (Value.leaves hv hD)).gap_cons hg
  | _, _, _, _, .more hn hv hg hg' h, hD =>
    (((hn.leaves.trans (Value.leaves hv hD)).gap_cons hg).gap hg').trans (Pairs.leaves h hD)

end

/-! ## Completeness -/

theorem Named.scan {t name u : Text} (h : Named t name u) : ∃ t' t₁ t₂, t = ('"' : CodePoint) :: t' ∧
    scanString ('"' :: t') [] false t' = .ok (name, t₁) ∧ skipGap t₁ = (':' : CodePoint) :: t₂ ∧
    skipGap t₂ = skipGap u := by
  cases h with
  | @intro _ _ t₁ t₂ _ hq hg hg' =>
    cases hq with
    | @intro ps t' _ hps =>
      exact ⟨t', t₁, t₂, rfl, scanString_iff.2 (.intro hps), hg.skipGap_eq.trans (skipGap_cons (by decide)),
        hg'.skipGap_eq⟩

/-- Words and numbers are left to the scanner of atoms. -/
theorem scanValue_word {fuel depth : Nat} {w t : Text} {v : Json} (h : (w, v) ∈ words) :
    scanValue (fuel + 1) depth (w ++ t) = .ok (v, t) := by
  have hatom := scanAtom_word (t := t) h
  simp only [words, List.mem_cons, Prod.mk.injEq, List.not_mem_nil, or_false] at h
  rcases h with ⟨rfl, rfl⟩ | ⟨rfl, rfl⟩ | ⟨rfl, rfl⟩ | ⟨rfl, rfl⟩ | ⟨rfl, rfl⟩ | ⟨rfl, rfl⟩ <;>
    exact (scanValue_atom (by decide) (by decide) (by decide)).trans hatom

theorem scanValue_number {fuel depth : Nat} {t u : Text} {n : Numeral} (h : Number t n u) (hu : NumberEnds u) :
    scanValue (fuel + 1) depth t = n.value.map (·, u) := by
  rw [← scanAtom_number h hu]
  cases h with
  | positive hw _ _ =>
    obtain ⟨c, rest, rfl, hc⟩ := hw.digits.startsDigit
    refine scanValue_atom ?_ ?_ ?_
    all_goals
      rintro rfl
      revert hc
      decide
  | negative _ _ _ => exact scanValue_atom (by decide) (by decide) (by decide)

theorem scanItems_of_value {fuel depth : Nat} {done : List Json} {t t₁ : Text} {v : Json}
    (h : scanValue fuel depth t = .ok (v, t₁)) : scanItems (fuel + 1) depth done t =
      match skipGap t₁ with
      | [] => .error (.fault .noComma [])
      | c :: rest =>
        if c = ']' then .ok (.array (v :: done).reverse, rest)
        else if c = ',' then scanItems fuel depth (v :: done) (skipGap rest)
        else .error (.fault .noComma (c :: rest)) := by
  cases hskip : skipGap t₁ <;> (rw [scanItems, h]; simp only [hskip])

theorem scanMembers_of_named {fuel depth : Nat} {done : Members} {t name t₁ : Text} (h : Named t name t₁) :
    scanMembers (fuel + 1) depth done t =
      match scanValue fuel depth (skipGap t₁) with
      | .error stop => .error stop
      | .ok (v, t₂) =>
        match skipGap t₂ with
        | [] => .error (.fault .noComma [])
        | c :: rest =>
          if c = '\x7d' then .ok (.object (Members.ofPairs ((name, v) :: done).reverse), rest)
          else if c = ',' then scanMembers fuel depth ((name, v) :: done) (skipGap rest)
          else .error (.fault .noComma (c :: rest)) := by
  obtain ⟨t', t₂, t₃, rfl, hscan, hcolon, hgap⟩ := h.scan
  cases hvalue : scanValue fuel depth (skipGap t₁) with
  | error stop =>
    rw [scanMembers, if_pos rfl, hscan]
    simp only [hcolon, if_true, hgap, hvalue]
  | ok p =>
    cases hskip : skipGap p.2 <;>
      (rw [scanMembers, if_pos rfl, hscan]; simp only [hcolon, if_true, hgap, hvalue, hskip])

theorem Gap.numberEnds_cons {t u : Text} {c : CodePoint} (h : Gap t (c :: u))
    (hc : c = ',' ∨ c = ']' ∨ c = '\x7d') : NumberEnds t := by
  refine h.numberEnds ?_
  rcases hc with rfl | rfl | rfl <;> exact Json.numberEnds_cons (by decide) (by decide) (by decide)

theorem depth_of_nesting {depth k : Nat} (h : depth + k = nestingLimit) (hk : Dialect.bounded.nesting (k + 1)) :
    ∃ depth', depth = depth' + 1 := by
  have hle : k + 1 ≤ nestingLimit := hk
  exact ⟨depth - 1, by omega⟩

mutual

/-- **A value within the limits is read.** -/
theorem scanValue_of_value : ∀ {k : Nat} {t : Text} {v : Json} {u : Text}, Value .bounded k t v u → NumberEnds u →
    ∀ {fuel depth : Nat}, depth + k = nestingLimit → 2 * t.length + 1 ≤ fuel → scanValue fuel depth t = .ok (v, u)
  | k, t, v, u, h, hu, fuel + 1, depth, hdepth, hfuel => by
    cases h with
    | word hw => exact scanValue_word hw
    | number hn hd => rw [scanValue_number hn hu, Numeral.value_eq_ok_iff.2 ⟨rfl, hd⟩, Except.map]
    | string hs =>
      cases hs with
      | intro hps => rw [scanValue_quote, scanString_iff.2 (.intro hps)]
    | emptyArray hk hg =>
      obtain ⟨depth, rfl⟩ := depth_of_nesting hdepth hk
      rw [scanValue_bracket, hg.skipGap_eq, skipGap_cons (by decide)]
      simp
    | @array _ vs t t₁ _ hk hg h =>
      obtain ⟨depth, rfl⟩ := depth_of_nesting hdepth hk
      obtain ⟨c, rest, rfl, hgap, hbracket, -⟩ := h.begins
      have hlength := hg.length_le
      simp only [List.length_cons] at hfuel hlength
      rw [scanValue_bracket, hg.skipGap_eq, skipGap_cons hgap]
      simp only [if_neg hbracket]
      exact scanItems_of_items h (by omega) (by simp only [List.length_cons]; omega)
    | emptyObject hk hg =>
      obtain ⟨depth, rfl⟩ := depth_of_nesting hdepth hk
      rw [scanValue_brace, hg.skipGap_eq, skipGap_cons (by decide)]
      simp
    | @object _ ps ms t t₁ _ hk hg h hm =>
      obtain ⟨depth, rfl⟩ := depth_of_nesting hdepth hk
      obtain ⟨c, rest, rfl, hgap, -, hbrace, -⟩ := h.begins
      have hlength := hg.length_le
      simp only [List.length_cons] at hfuel hlength
      have hmembers := @scanMembers_of_pairs _ _ _ _ h fuel depth [] (by omega)
        (by simp only [List.length_cons]; omega)
      rw [scanValue_brace, hg.skipGap_eq, skipGap_cons hgap, Members.merged_iff.1 hm]
      simp only [if_neg hbrace, hmembers]
      simp

theorem scanItems_of_items : ∀ {k : Nat} {t : Text} {vs : List Json} {u : Text}, Items .bounded k t vs u →
    ∀ {fuel depth : Nat} {done : List Json}, depth + k = nestingLimit → 2 * t.length + 2 ≤ fuel →
      scanItems fuel depth done t = .ok (.array (done.reverse ++ vs), u)
  | k, t, vs, u, h, fuel + 1, depth, done, hdepth, hfuel => by
    cases h with
    | @last _ v _ t₁ _ hv hg =>
      have hvalue := scanValue_of_value hv (hg.numberEnds_cons (by simp)) hdepth (show 2 * t.length + 1 ≤ fuel by omega)
      rw [scanItems_of_value hvalue, hg.skipGap_eq, skipGap_cons (by decide)]
      simp
    | @more _ v vs _ t₁ t₂ t₃ _ hv hg hg' h =>
      have hvalue := scanValue_of_value hv (hg.numberEnds_cons (by simp)) hdepth (show 2 * t.length + 1 ≤ fuel by omega)
      obtain ⟨c, rest, rfl, hgap, -⟩ := h.begins
      have h₁ := hv.leaves.length_lt
      have h₂ := hg.length_le
      have h₃ := hg'.length_le
      simp only [List.length_cons] at h₂ h₃
      have hitems := @scanItems_of_items _ _ _ _ h fuel depth (v :: done) hdepth
        (by simp only [List.length_cons]; omega)
      rw [scanItems_of_value hvalue, hg.skipGap_eq, skipGap_cons (by decide)]
      simp only [hg'.skipGap_eq, skipGap_cons hgap, hitems]
      simp

theorem scanMembers_of_pairs : ∀ {k : Nat} {t : Text} {ps : Members} {u : Text}, Pairs .bounded k t ps u →
    ∀ {fuel depth : Nat} {done : Members}, depth + k = nestingLimit → 2 * t.length + 2 ≤ fuel →
      scanMembers fuel depth done t = .ok (.object (Members.ofPairs (done.reverse ++ ps)), u)
  | k, t, ps, u, h, fuel + 1, depth, done, hdepth, hfuel => by
    cases h with
    | @last _ name v _ t₁ t₂ _ hn hv hg =>
      have hlength := hn.leaves.length_lt
      have hvalue := scanValue_of_value hv (hg.numberEnds_cons (by simp)) hdepth
        (show 2 * t₁.length + 1 ≤ fuel by omega)
      rw [scanMembers_of_named hn, hv.begins.skipGap_eq, hvalue]
      simp only [hg.skipGap_eq, skipGap_cons (show isGap '\x7d' = false by decide)]
      simp
    | @more _ name v ps _ t₁ t₂ t₃ t₄ _ hn hv hg hg' h =>
      have hlength := hn.leaves.length_lt
      have hvalue := scanValue_of_value hv (hg.numberEnds_cons (by simp)) hdepth
        (show 2 * t₁.length + 1 ≤ fuel by omega)
      obtain ⟨c, rest, rfl, hgap, -⟩ := h.begins
      have h₁ := hv.leaves.length_lt
      have h₂ := hg.length_le
      have h₃ := hg'.length_le
      simp only [List.length_cons] at h₂ h₃
      have hmembers := @scanMembers_of_pairs _ _ _ _ h fuel depth ((name, v) :: done) hdepth
        (by simp only [List.length_cons]; omega)
      rw [scanMembers_of_named hn, hv.begins.skipGap_eq, hvalue]
      simp only [hg.skipGap_eq, skipGap_cons (show isGap ',' = false by decide), hg'.skipGap_eq,
        skipGap_cons hgap, hmembers]
      simp

end

/-! ## What one step can do -/

/-- The ways in which a value may be read, or not. -/
inductive ValueStep (fuel : Nat) : Nat → Text → Except Stop (Json × Text) → Prop
  | fault {depth : Nat} {t rest : Text} {what : Fault} : ValueStep fuel depth t (.error (.fault what rest))
  | tooDeep {depth : Nat} {t : Text} : ValueStep fuel depth t (.error .tooDeep)
  | string {depth : Nat} {t s u : Text} : Quoted t s u → ValueStep fuel depth t (.ok (.string s, u))
  | emptyArray {depth : Nat} {t u : Text} :
      Gap t (']' :: u) → ValueStep fuel (depth + 1) ('[' :: t) (.ok (.array [], u))
  | array {depth : Nat} {t t₁ : Text} : Gap t t₁ → ValueStep fuel (depth + 1) ('[' :: t) (scanItems fuel depth [] t₁)
  | emptyObject {depth : Nat} {t u : Text} :
      Gap t ('\x7d' :: u) → ValueStep fuel (depth + 1) ('\x7b' :: t) (.ok (.object [], u))
  | object {depth : Nat} {t t₁ : Text} :
      Gap t t₁ → ValueStep fuel (depth + 1) ('\x7b' :: t) (scanMembers fuel depth [] t₁)
  | atom {depth : Nat} {t : Text} : ValueStep fuel depth t (scanAtom t)

theorem scanValue_step (fuel depth : Nat) (t : Text) : ValueStep fuel depth t (scanValue (fuel + 1) depth t) := by
  cases t with
  | nil => exact .fault
  | cons c t =>
    by_cases hquote : c = '"'
    · subst hquote
      rw [scanValue_quote]
      cases hscan : scanString ('"' :: t) [] false t with
      | ok p => exact .string (scanString_iff.1 hscan)
      | error stop =>
        obtain ⟨what, rest, rfl⟩ := scanString_error hscan
        exact .fault
    · by_cases hbracket : c = '['
      · subst hbracket
        cases depth with
        | zero => rw [scanValue_bracket_zero]; exact .tooDeep
        | succ depth =>
          have hgap := gap_skipGap t
          rw [scanValue_bracket]
          cases hskip : skipGap t with
          | nil => exact .fault
          | cons d u =>
            rw [hskip] at hgap
            by_cases hd : d = ']'
            · subst hd
              simp only [if_true]
              exact .emptyArray hgap
            · simp only [if_neg hd]
              exact .array hgap
      · by_cases hbrace : c = '\x7b'
        · subst hbrace
          cases depth with
          | zero => rw [scanValue_brace_zero]; exact .tooDeep
          | succ depth =>
            have hgap := gap_skipGap t
            rw [scanValue_brace]
            cases hskip : skipGap t with
            | nil => exact .fault
            | cons d u =>
              rw [hskip] at hgap
              by_cases hd : d = '\x7d'
              · subst hd
                simp only [if_true]
                exact .emptyObject hgap
              · simp only [if_neg hd]
                exact .object hgap
        · rw [scanValue_atom hquote hbracket hbrace]
          exact .atom

/-- The ways in which the items from here on may be read, or not. -/
inductive ItemsStep (fuel depth : Nat) (done : List Json) (t : Text) : Except Stop (Json × Text) → Prop
  | stop {stop : Stop} : scanValue fuel depth t = .error stop → ItemsStep fuel depth done t (.error stop)
  | fault {rest : Text} {what : Fault} : ItemsStep fuel depth done t (.error (.fault what rest))
  | last {v : Json} {t₁ u : Text} : scanValue fuel depth t = .ok (v, t₁) → Gap t₁ (']' :: u) →
      ItemsStep fuel depth done t (.ok (.array (v :: done).reverse, u))
  | more {v : Json} {t₁ t₂ t₃ : Text} : scanValue fuel depth t = .ok (v, t₁) → Gap t₁ (',' :: t₂) → Gap t₂ t₃ →
      ItemsStep fuel depth done t (scanItems fuel depth (v :: done) t₃)

theorem scanItems_step (fuel depth : Nat) (done : List Json) (t : Text) :
    ItemsStep fuel depth done t (scanItems (fuel + 1) depth done t) := by
  cases hvalue : scanValue fuel depth t with
  | error stop =>
    rw [scanItems, hvalue]
    exact .stop hvalue
  | ok p =>
    obtain ⟨v, t₁⟩ := p
    have hgap := gap_skipGap t₁
    rw [scanItems_of_value hvalue]
    cases hskip : skipGap t₁ with
    | nil => exact .fault
    | cons c rest =>
      rw [hskip] at hgap
      by_cases hclose : c = ']'
      · subst hclose
        simp only [if_true]
        exact .last hvalue hgap
      · by_cases hcomma : c = ','
        · subst hcomma
          simp only [if_neg hclose, if_true]
          exact .more hvalue hgap (gap_skipGap rest)
        · simp only [if_neg hclose, if_neg hcomma]
          exact .fault

/-- The ways in which the members from here on may be read, or not. -/
inductive MembersStep (fuel depth : Nat) (done : Members) (t : Text) : Except Stop (Json × Text) → Prop
  | fault {rest : Text} {what : Fault} : MembersStep fuel depth done t (.error (.fault what rest))
  | stop {name t₁ : Text} {stop : Stop} : Named t name t₁ → scanValue fuel depth t₁ = .error stop →
      MembersStep fuel depth done t (.error stop)
  | last {name t₁ t₂ u : Text} {v : Json} : Named t name t₁ → scanValue fuel depth t₁ = .ok (v, t₂) →
      Gap t₂ ('\x7d' :: u) →
      MembersStep fuel depth done t (.ok (.object (Members.ofPairs ((name, v) :: done).reverse), u))
  | more {name t₁ t₂ t₃ t₄ : Text} {v : Json} : Named t name t₁ → scanValue fuel depth t₁ = .ok (v, t₂) →
      Gap t₂ (',' :: t₃) → Gap t₃ t₄ → MembersStep fuel depth done t (scanMembers fuel depth ((name, v) :: done) t₄)

/-- A name with its colon, or a fault where one should be. -/
theorem named_or_fault (fuel depth : Nat) (done : Members) (t : Text) :
    (∃ name t₁, Named t name t₁ ∧ skipGap t₁ = t₁) ∨
      ∃ what rest, scanMembers (fuel + 1) depth done t = .error (.fault what rest) := by
  cases t with
  | nil => exact .inr ⟨_, _, rfl⟩
  | cons q t =>
    rw [scanMembers]
    by_cases hquote : q = '"'
    · subst hquote
      rw [if_pos rfl]
      cases hscan : scanString ('"' :: t) [] false t with
      | error stop =>
        obtain ⟨what, rest, rfl⟩ := scanString_error hscan
        exact .inr ⟨what, rest, rfl⟩
      | ok p =>
        obtain ⟨name, t₁⟩ := p
        have hgap := gap_skipGap t₁
        cases hskip : skipGap t₁ with
        | nil => exact .inr ⟨.noColon, [], by simp only [hskip]⟩
        | cons c rest =>
          rw [hskip] at hgap
          by_cases hcolon : c = ':'
          · subst hcolon
            refine .inl ⟨name, skipGap rest, .intro (scanString_iff.1 hscan) hgap (gap_skipGap rest), ?_⟩
            exact (gap_skipGap rest).skipGap_eq.symm
          · exact .inr ⟨.noColon, c :: rest, by simp only [hskip, if_neg hcolon]⟩
    · exact .inr ⟨.noName, q :: t, if_neg hquote⟩

theorem scanMembers_step (fuel depth : Nat) (done : Members) (t : Text) :
    MembersStep fuel depth done t (scanMembers (fuel + 1) depth done t) := by
  rcases named_or_fault fuel depth done t with ⟨name, t₁, hnamed, hskip₁⟩ | ⟨what, rest, hfault⟩
  · rw [scanMembers_of_named hnamed, hskip₁]
    cases hvalue : scanValue fuel depth t₁ with
    | error stop => exact .stop hnamed hvalue
    | ok p =>
      obtain ⟨v, t₂⟩ := p
      have hgap := gap_skipGap t₂
      simp only
      cases hskip : skipGap t₂ with
      | nil => exact .fault
      | cons c rest =>
        rw [hskip] at hgap
        by_cases hclose : c = '\x7d'
        · subst hclose
          simp only [if_true]
          exact .last hnamed hvalue hgap
        · by_cases hcomma : c = ','
          · subst hcomma
            simp only [if_neg hclose, if_true]
            exact .more hnamed hvalue hgap (gap_skipGap rest)
          · simp only [if_neg hclose, if_neg hcomma]
            exact .fault
  · rw [hfault]
    exact .fault

/-! ## Soundness -/

theorem nesting_of_depth {depth k : Nat} (h : depth + 1 + k = nestingLimit) : Dialect.bounded.nesting (k + 1) :=
  show k + 1 ≤ nestingLimit by omega

/-- **What is read is a text of the grammar within the limits**, for values, for items and for members. -/
theorem scan_sound (fuel : Nat) :
    (∀ {depth k : Nat} {t u : Text} {v : Json}, depth + k = nestingLimit → scanValue fuel depth t = .ok (v, u) →
      Value .bounded k t v u) ∧
    (∀ {depth k : Nat} {done : List Json} {t u : Text} {v : Json}, depth + k = nestingLimit →
      scanItems fuel depth done t = .ok (v, u) → ∃ vs, v = .array (done.reverse ++ vs) ∧ Items .bounded k t vs u) ∧
    (∀ {depth k : Nat} {done : Members} {t u : Text} {v : Json}, depth + k = nestingLimit →
      scanMembers fuel depth done t = .ok (v, u) →
        ∃ ps, v = .object (Members.ofPairs (done.reverse ++ ps)) ∧ Pairs .bounded k t ps u) := by
  induction fuel with
  | zero => refine ⟨fun _ h => ?_, fun _ h => ?_, fun _ h => ?_⟩ <;> cases h
  | succ fuel ih =>
    obtain ⟨ihValue, ihItems, ihMembers⟩ := ih
    refine ⟨fun {depth k t u v} hdepth h => ?_, fun {depth k done t u v} hdepth h => ?_,
      fun {depth k done t u v} hdepth h => ?_⟩
    · have hstep := scanValue_step fuel depth t
      generalize scanValue (fuel + 1) depth t = r at h hstep
      cases hstep with
      | fault => cases h
      | tooDeep => cases h
      | string hs =>
        cases h
        exact .string hs
      | emptyArray hg =>
        cases h
        exact .emptyArray (nesting_of_depth hdepth) hg
      | array hg =>
        obtain ⟨vs, rfl, hvs⟩ := ihItems (k := k + 1) (by omega) h
        exact .array (nesting_of_depth hdepth) hg hvs
      | emptyObject hg =>
        cases h
        exact .emptyObject (nesting_of_depth hdepth) hg
      | object hg =>
        obtain ⟨ps, rfl, hps⟩ := ihMembers (k := k + 1) (by omega) h
        exact .object (nesting_of_depth hdepth) hg hps (Members.merged_iff.2 rfl)
      | atom => exact value_of_scanAtom h
    · have hstep := scanItems_step fuel depth done t
      generalize scanItems (fuel + 1) depth done t = r at h hstep
      cases hstep with
      | stop _ => cases h
      | fault => cases h
      | last hv hg =>
        cases h
        exact ⟨[_], by simp, .last (ihValue hdepth hv) hg⟩
      | @more v' _ _ _ hv hg hg' =>
        obtain ⟨vs, rfl, hvs⟩ := ihItems hdepth h
        exact ⟨v' :: vs, by simp, .more (ihValue hdepth hv) hg hg' hvs⟩
    · have hstep := scanMembers_step fuel depth done t
      generalize scanMembers (fuel + 1) depth done t = r at h hstep
      cases hstep with
      | stop _ _ => cases h
      | fault => cases h
      | last hn hv hg =>
        cases h
        exact ⟨[_], by simp, .last hn (ihValue hdepth hv) hg⟩
      | @more name _ _ _ _ v' hn hv hg hg' =>
        obtain ⟨ps, rfl, hps⟩ := ihMembers hdepth h
        exact ⟨(name, v') :: ps, by simp, .more hn (ihValue hdepth hv) hg hg' hps⟩

/-! ## Documents -/

theorem scanDocument_cons {c : CodePoint} {rest : Text} (h : c.val ≠ 0xFEFF) : scanDocument (c :: rest) =
    match scanValue (2 * (c :: rest).length + 2) nestingLimit (skipGap (c :: rest)) with
    | .error stop => .error stop
    | .ok (v, u) => if skipGap u = [] then .ok v else .error (.fault .trailingText (skipGap u)) := by
  simp only [scanDocument, if_neg h]
  cases scanValue (2 * (c :: rest).length + 2) nestingLimit (skipGap (c :: rest)) with
  | error stop => rfl
  | ok p =>
    simp only
    cases skipGap p.2 <;> simp

theorem scanDocument_byteOrderMark {c : CodePoint} {rest : Text} (h : c.val = 0xFEFF) :
    scanDocument (c :: rest) = .error (.fault .byteOrderMark (c :: rest)) := by
  simp only [scanDocument, if_pos h]

/-- White space and then an ASCII character: no byte order mark. -/
theorem Gap.head_ne_mark {t rest : Text} {c : CodePoint} (h : Gap t (c :: rest)) (hc : c.val < 0x80) :
    ∃ d u, t = d :: u ∧ d.val ≠ 0xFEFF := by
  cases h with
  | none => exact ⟨c, rest, rfl, by omega⟩
  | @more d t _ hd _ => exact ⟨d, t, rfl, by omega⟩

theorem read_eq_ok_iff_scan {t : Text} {v : Json} : read t = .ok v ↔ scanDocument t = .ok v := by
  unfold read
  cases scanDocument t <;> simp [Except.mapError]

theorem document_of_scan {t : Text} {v : Json} (h : scanDocument t = .ok v) : Document .bounded t v := by
  cases t with
  | nil => cases h
  | cons c rest =>
    by_cases hmark : c.val = 0xFEFF
    · rw [scanDocument_byteOrderMark hmark] at h
      cases h
    · rw [scanDocument_cons hmark] at h
      cases hvalue : scanValue (2 * (c :: rest).length + 2) nestingLimit (skipGap (c :: rest)) with
      | error stop =>
        rw [hvalue] at h
        cases h
      | ok p =>
        rw [hvalue] at h
        simp only at h
        split at h
        · next hend =>
          cases h
          exact ⟨_, p.2, gap_skipGap _, (scan_sound _).1 rfl hvalue, hend ▸ gap_skipGap p.2⟩
        · cases h

theorem scan_of_document {t : Text} {v : Json} (h : Document .bounded t v) : scanDocument t = .ok v := by
  obtain ⟨t₁, u, hgap, hv, hend⟩ := h
  have hskip₁ := hv.begins.skipGap_eq
  obtain ⟨c₁, rest₁, rfl, -, -, -, hascii⟩ := hv.begins
  obtain ⟨c, rest, rfl, hmark⟩ := hgap.head_ne_mark hascii
  have hlength := hgap.length_le
  have hvalue := scanValue_of_value hv (hend.numberEnds numberEnds_nil) (Nat.add_zero nestingLimit)
    (show _ ≤ 2 * (c :: rest).length + 2 by omega)
  have hskip : skipGap u = [] := hend.skipGap_eq
  rw [scanDocument_cons hmark, hgap.skipGap_eq, hskip₁, hvalue]
  simp only [hskip, if_true]

/-- **Reading accepts exactly the documents within its limits**, and gives the value that they denote. -/
theorem read_eq_ok_iff {t : Text} {v : Json} : read t = .ok v ↔ Document .bounded t v :=
  read_eq_ok_iff_scan.trans ⟨document_of_scan, scan_of_document⟩

end MonitorIntake.Json
