import MonitorIntake.Proofs.Json.Reading

/-!
# Limits

A text is read from left to right, so a limit is met only at a place that is reached: `Reach D t e k u` says that all
of `t` before `u` is well formed as far as it goes, and that a value, an item or a member (`e`) begins at `u` where `k`
containers are open.

* **The digit limit** (`read_eq_tooManyDigits_iff`): it stops the reader iff an integer with more digits stands at a
  place that is reached, whatever follows. What stops the reader at a place stops it from the beginning
  (`Reach.scan_error`, by induction on the way to that place).
* **Texts within the limits** (`document_bounded_iff`): a text that never opens too many containers and has no long run
  of digits is a document of the extended grammar iff it is one within the limits.
-/

namespace MonitorIntake.Json

/-! ## Places that are reached -/

/-- What begins at a place: any value, an item of an array, or a member of an object. -/
inductive Expected
  | value
  | item
  | member

/-- The places of a text where a value, an item or a member begins, after a part that is well formed. -/
inductive Reach (D : Dialect) (t : Text) : Expected → Nat → Text → Prop
  | start {u : Text} : Gap t u → Reach D t .value 0 u
  | openArray {k : Nat} {u u₁ : Text} :
      Reach D t .value k ('[' :: u) → D.nesting (k + 1) → Gap u u₁ → Reach D t .item (k + 1) u₁
  | item {k : Nat} {u : Text} : Reach D t .item k u → Reach D t .value k u
  | nextItem {k : Nat} {u u₁ u₂ u₃ : Text} {v : Json} :
      Reach D t .item k u → Value D k u v u₁ → Gap u₁ (',' :: u₂) → Gap u₂ u₃ → Reach D t .item k u₃
  | openObject {k : Nat} {u u₁ : Text} :
      Reach D t .value k ('\x7b' :: u) → D.nesting (k + 1) → Gap u u₁ → Reach D t .member (k + 1) u₁
  | member {k : Nat} {u u₁ name : Text} : Reach D t .member k u → Named u name u₁ → Reach D t .value k u₁
  | nextMember {k : Nat} {u u₁ u₂ u₃ u₄ name : Text} {v : Json} : Reach D t .member k u → Named u name u₁ →
      Value D k u₁ v u₂ → Gap u₂ (',' :: u₃) → Gap u₃ u₄ → Reach D t .member k u₄

/-- A place is reached in what is left of the text. -/
theorem Reach.suffix {D : Dialect} {t u : Text} {e : Expected} {k : Nat} (h : Reach D t e k u)
    (hD : D.words ⊆ words := by exact fun _ h => h) : u <:+ t := by
  induction h with
  | start hg => exact hg.suffix
  | openArray _ _ hg ih => exact (hg.suffix.trans (List.suffix_cons _ _)).trans ih
  | item _ ih => exact ih
  | nextItem _ hv hg hg' ih => exact (((hv.leaves hD).gap_cons hg).gap hg').suffix.trans ih
  | openObject _ _ hg ih => exact (hg.suffix.trans (List.suffix_cons _ _)).trans ih
  | member _ hn ih => exact hn.leaves.suffix.trans ih
  | nextMember _ hn hv hg hg' ih =>
    exact (((hn.leaves.trans (hv.leaves hD)).gap_cons hg).gap hg').suffix.trans ih

/-! ## What stops the reader -/

/-- The scanner in charge stops at this place. -/
def Fails (stop : Stop) : Expected → Nat → Text → Prop
  | .value, k, u => ∀ {fuel depth : Nat}, depth + k = nestingLimit → 2 * u.length + 1 ≤ fuel →
      scanValue fuel depth u = .error stop
  | .item, k, u => ∀ {fuel depth : Nat} {done : List Json}, depth + k = nestingLimit → 2 * u.length + 2 ≤ fuel →
      scanItems fuel depth done u = .error stop
  | .member, k, u => ∀ {fuel depth : Nat} {done : Members}, depth + k = nestingLimit → 2 * u.length + 2 ≤ fuel →
      scanMembers fuel depth done u = .error stop

section Fails

variable {stop : Stop} {k : Nat} {t u u₁ u₂ u₃ u₄ name : Text} {v : Json}

theorem fails_document (h : Fails stop .value 0 u) (hu : Begins u) (hg : Gap t u) : scanDocument t = .error stop := by
  have hlength := hg.length_le
  obtain ⟨c₁, rest₁, rfl, hgap, -, -, hascii⟩ := hu
  obtain ⟨c, rest, rfl, hmark⟩ := hg.head_ne_mark hascii
  rw [scanDocument_cons hmark, hg.skipGap_eq, skipGap_cons hgap, h (Nat.add_zero nestingLimit) (by omega)]

theorem fails_array (h : Fails stop .item (k + 1) u₁) (hu : Begins u₁) (hk : Dialect.bounded.nesting (k + 1))
    (hg : Gap u u₁) : Fails stop .value k ('[' :: u) := by
  intro fuel depth hdepth hfuel
  have hlength := hg.length_le
  obtain ⟨depth, rfl⟩ := depth_of_nesting hdepth hk
  obtain ⟨c, rest, rfl, hgap, hbracket, -⟩ := hu
  rw [List.length_cons] at hfuel
  cases fuel with
  | zero => omega
  | succ fuel =>
    rw [scanValue_bracket, hg.skipGap_eq, skipGap_cons hgap]
    simp only [if_neg hbracket]
    exact h (by omega) (by omega)

theorem fails_object (h : Fails stop .member (k + 1) u₁) (hu : Begins u₁) (hk : Dialect.bounded.nesting (k + 1))
    (hg : Gap u u₁) : Fails stop .value k ('\x7b' :: u) := by
  intro fuel depth hdepth hfuel
  have hlength := hg.length_le
  obtain ⟨depth, rfl⟩ := depth_of_nesting hdepth hk
  obtain ⟨c, rest, rfl, hgap, -, hbrace, -⟩ := hu
  rw [List.length_cons] at hfuel
  cases fuel with
  | zero => omega
  | succ fuel =>
    rw [scanValue_brace, hg.skipGap_eq, skipGap_cons hgap]
    simp only [if_neg hbrace]
    exact h (by omega) (by omega)

theorem fails_item (h : Fails stop .value k u) : Fails stop .item k u := by
  intro fuel depth done hdepth hfuel
  cases fuel with
  | zero => omega
  | succ fuel => rw [scanItems, h hdepth (by omega)]

theorem fails_items (h : Fails stop .item k u₃) (hu : Begins u₃) (hv : Value .bounded k u v u₁)
    (hg : Gap u₁ (',' :: u₂)) (hg' : Gap u₂ u₃) : Fails stop .item k u := by
  intro fuel depth done hdepth hfuel
  have hlength := ((hv.leaves.gap_cons hg).gap hg').length_lt
  cases fuel with
  | zero => omega
  | succ fuel =>
    have hvalue := scanValue_of_value hv (hg.numberEnds_cons (by simp)) hdepth (show _ ≤ fuel by omega)
    rw [scanItems_of_value hvalue, hg.skipGap_eq, skipGap_cons (by decide)]
    simp only [hg'.skipGap_eq, hu.skipGap_eq, h hdepth (show _ ≤ fuel by omega)]
    simp

theorem fails_member (h : Fails stop .value k u₁) (hu : Begins u₁) (hn : Named u name u₁) :
    Fails stop .member k u := by
  intro fuel depth done hdepth hfuel
  have hlength := hn.leaves.length_lt
  cases fuel with
  | zero => omega
  | succ fuel => rw [scanMembers_of_named hn, hu.skipGap_eq, h hdepth (by omega)]

theorem fails_members (h : Fails stop .member k u₄) (hu : Begins u₄) (hn : Named u name u₁)
    (hv : Value .bounded k u₁ v u₂) (hg : Gap u₂ (',' :: u₃)) (hg' : Gap u₃ u₄) : Fails stop .member k u := by
  intro fuel depth done hdepth hfuel
  have hname := hn.leaves.length_lt
  have hlength := ((hv.leaves.gap_cons hg).gap hg').length_lt
  cases fuel with
  | zero => omega
  | succ fuel =>
    have hvalue := scanValue_of_value hv (hg.numberEnds_cons (by simp)) hdepth (show _ ≤ fuel by omega)
    rw [scanMembers_of_named hn, hv.begins.skipGap_eq, hvalue]
    simp only [hg.skipGap_eq, skipGap_cons (show isGap ',' = false by decide), hg'.skipGap_eq, hu.skipGap_eq,
      h hdepth (show _ ≤ fuel by omega)]
    simp

end Fails

/-- **What stops the reader at a place that is reached stops it from the beginning.** -/
theorem Reach.scan_error {t u : Text} {e : Expected} {k : Nat} {stop : Stop} (h : Reach .bounded t e k u)
    (hu : Begins u) (hfails : Fails stop e k u) : scanDocument t = .error stop := by
  induction h with
  | start hg => exact fails_document hfails hu hg
  | openArray _ hk hg ih =>
    exact ih (begins_cons (by decide) (by decide) (by decide) (by decide)) (fails_array hfails hu hk hg)
  | item _ ih => exact ih hu (fails_item hfails)
  | nextItem _ hv hg hg' ih => exact ih hv.begins (fails_items hfails hu hv hg hg')
  | openObject _ hk hg ih =>
    exact ih (begins_cons (by decide) (by decide) (by decide) (by decide)) (fails_object hfails hu hk hg)
  | member _ hn ih => exact ih hn.begins (fails_member hfails hu hn)
  | nextMember _ hn hv hg hg' ih => exact ih hn.begins (fails_members hfails hu hn hv hg hg')

/-! ## The digit limit -/

/-- An integer of `count` digits, more than may be read, stands where a value begins. -/
def Overlong (t : Text) (count : Nat) : Prop :=
  ∃ k u n rest, Reach .bounded t .value k u ∧ Number u n rest ∧ NumberEnds rest ∧ n.IsInteger ∧
    n.whole.length = count ∧ digitLimit < count

theorem overlong_of_scanAtom {t u : Text} {k count : Nat} (hreach : Reach .bounded t .value k u)
    (h : scanAtom u = .error (.tooManyDigits count)) : Overlong t count := by
  unfold scanAtom at h
  split at h
  · cases h
  · split at h
    · cases h
    · next n rest hscan =>
      obtain ⟨hn, hends⟩ := number_of_scanNumeral? hscan
      cases hvalue : n.value with
      | ok v => simp [hvalue, bind, Except.bind, pure, Except.pure] at h
      | error stop =>
        simp only [hvalue, bind, Except.bind, Except.error.injEq] at h
        obtain ⟨hi, hlong, hstop⟩ := Numeral.value_eq_error_iff.1 hvalue
        obtain ⟨rfl⟩ := h.symm.trans hstop
        have hlong' : 4300 < n.whole.length := hlong
        exact ⟨k, u, n, rest, hreach, hn, hends hi (by omega), hi, rfl, hlong⟩

/-- What stops the scanners for its digits is an integer at a place that they reach. -/
theorem overlong_of_scan {t : Text} {count : Nat} (fuel : Nat) :
    (∀ {depth k : Nat} {u : Text}, depth + k = nestingLimit → Reach .bounded t .value k u →
      scanValue fuel depth u = .error (.tooManyDigits count) → Overlong t count) ∧
    (∀ {depth k : Nat} {done : List Json} {u : Text}, depth + k = nestingLimit → Reach .bounded t .item k u →
      scanItems fuel depth done u = .error (.tooManyDigits count) → Overlong t count) ∧
    (∀ {depth k : Nat} {done : Members} {u : Text}, depth + k = nestingLimit → Reach .bounded t .member k u →
      scanMembers fuel depth done u = .error (.tooManyDigits count) → Overlong t count) := by
  induction fuel with
  | zero => refine ⟨fun _ _ h => ?_, fun _ _ h => ?_, fun _ _ h => ?_⟩ <;> cases h
  | succ fuel ih =>
    obtain ⟨ihValue, ihItems, ihMembers⟩ := ih
    refine ⟨fun {depth k u} hdepth hreach h => ?_, fun {depth k done u} hdepth hreach h => ?_,
      fun {depth k done u} hdepth hreach h => ?_⟩
    · have hstep := scanValue_step fuel depth u
      generalize scanValue (fuel + 1) depth u = r at h hstep
      cases hstep with
      | array hg => exact ihItems (k := k + 1) (by omega) (hreach.openArray (nesting_of_depth hdepth) hg) h
      | object hg => exact ihMembers (k := k + 1) (by omega) (hreach.openObject (nesting_of_depth hdepth) hg) h
      | atom => exact overlong_of_scanAtom hreach h
      | _ => cases h
    · have hstep := scanItems_step fuel depth done u
      generalize scanItems (fuel + 1) depth done u = r at h hstep
      cases hstep with
      | stop hv =>
        cases h
        exact ihValue hdepth hreach.item hv
      | more hv hg hg' => exact ihItems hdepth (hreach.nextItem ((scan_sound fuel).1 hdepth hv) hg hg') h
      | _ => cases h
    · have hstep := scanMembers_step fuel depth done u
      generalize scanMembers (fuel + 1) depth done u = r at h hstep
      cases hstep with
      | stop hn hv =>
        cases h
        exact ihValue hdepth (hreach.member hn) hv
      | more hn hv hg hg' =>
        exact ihMembers hdepth (hreach.nextMember hn ((scan_sound fuel).1 hdepth hv) hg hg') h
      | _ => cases h

theorem overlong_of_scanDocument {t : Text} {count : Nat} (h : scanDocument t = .error (.tooManyDigits count)) :
    Overlong t count := by
  cases t with
  | nil => cases h
  | cons c rest =>
    by_cases hmark : c.val = 0xFEFF
    · rw [scanDocument_byteOrderMark hmark] at h
      cases h
    · rw [scanDocument_cons hmark] at h
      cases hvalue : scanValue (2 * (c :: rest).length + 2) nestingLimit (skipGap (c :: rest)) with
      | error stop =>
        rw [hvalue] at h
        cases h
        exact (overlong_of_scan _).1 (Nat.add_zero nestingLimit) (.start (gap_skipGap _)) hvalue
      | ok p =>
        rw [hvalue] at h
        simp only at h
        split at h <;> cases h

theorem Overlong.scanDocument_eq {t : Text} {count : Nat} (h : Overlong t count) :
    scanDocument t = .error (.tooManyDigits count) := by
  obtain ⟨k, u, n, rest, hreach, hn, hends, hi, rfl, hlong⟩ := h
  refine hreach.scan_error hn.begins fun {fuel depth} _ hfuel => ?_
  cases fuel with
  | zero => omega
  | succ fuel => rw [scanValue_number hn hends, Numeral.value_eq_error_iff.2 ⟨hi, hlong, rfl⟩, Except.map]

/-- **The digit limit stops the reader iff an integer that is too long stands at a place that is reached.** -/
theorem read_eq_tooManyDigits_iff {t : Text} {count : Nat} :
    read t = .error (.tooManyDigits count) ↔ Overlong t count := by
  refine ⟨fun h => overlong_of_scanDocument ?_, fun h => by rw [read, h.scanDocument_eq, Except.mapError, Stop.toError]⟩
  unfold read at h
  cases hscan : scanDocument t with
  | ok v => simp [hscan, Except.mapError] at h
  | error stop =>
    simp only [hscan, Except.mapError, Except.error.injEq] at h
    cases stop with
    | tooManyDigits count' =>
      cases h
      rfl
    | _ => cases h

/-! ## Texts within the limits -/

/-- No more than `n` digits stand in a row. -/
def DigitRunsAtMost (n : Nat) (t : Text) : Prop :=
  ∀ ds, ds <:+: t → (∀ c ∈ ds, c.isDigit = true) → ds.length ≤ n

/-- No more than `n` containers are open at once at the places that are reached. -/
def OpensAtMost (n : Nat) (t : Text) : Prop :=
  ∀ k c u, Reach .extended t .value k (c :: u) → c = '[' ∨ c = '\x7b' → k < n

theorem digitRunsAtMost_of_length {n : Nat} {t : Text} (h : t.length ≤ n) : DigitRunsAtMost n t :=
  fun _ hds _ => Nat.le_trans hds.length_le h

/-- Every open container has a code point of its own before the place. -/
theorem Reach.length_le {D : Dialect} {t u : Text} {e : Expected} {k : Nat} (h : Reach D t e k u)
    (hD : D.words ⊆ words := by exact fun _ h => h) : k + u.length ≤ t.length := by
  induction h with
  | start hg =>
    rw [Nat.zero_add]
    exact hg.length_le
  | openArray _ _ hg ih | openObject _ _ hg ih =>
    have := hg.length_le
    rw [List.length_cons] at ih
    omega
  | item _ ih => exact ih
  | nextItem _ hv hg hg' ih =>
    have := (((hv.leaves hD).gap_cons hg).gap hg').length_lt
    omega
  | member _ hn ih =>
    have := hn.leaves.length_lt
    omega
  | nextMember _ hn hv hg hg' ih =>
    have := (((hn.leaves.trans (hv.leaves hD)).gap_cons hg).gap hg').length_lt
    omega

theorem opensAtMost_of_length {n : Nat} {t : Text} (h : t.length ≤ n) : OpensAtMost n t := by
  intro k c u hreach _
  have := hreach.length_le
  rw [List.length_cons] at this
  omega

theorem OpensAtMost.mono {m n : Nat} {t : Text} (h : OpensAtMost m t) (hmn : m ≤ n) : OpensAtMost n t :=
  fun k c u hreach hc => Nat.lt_of_lt_of_le (h k c u hreach hc) hmn

theorem Number.length_whole_le {m : Nat} {t u rest : Text} {n : Numeral} (h : Number u n rest)
    (hruns : DigitRunsAtMost m t) (hsuffix : u <:+ t) : n.whole.length ≤ m := by
  cases h with
  | positive hw _ _ =>
    obtain ⟨rfl, -, hdigits⟩ := hw.digits
    exact hruns _ ((List.prefix_append _ _).isInfix.trans hsuffix.isInfix) hdigits
  | negative hw _ _ =>
    obtain ⟨rfl, -, hdigits⟩ := hw.digits
    exact hruns _ ((List.prefix_append _ _).isInfix.trans ((List.suffix_cons _ _).trans hsuffix).isInfix) hdigits

theorem not_overlong {t : Text} (hruns : DigitRunsAtMost digitLimit t) (count : Nat) : ¬ Overlong t count := by
  rintro ⟨k, u, n, rest, hreach, hn, -, -, rfl, hlong⟩
  exact Nat.not_lt.2 (hn.length_whole_le hruns hreach.suffix) hlong

mutual

/-- **In a text within the limits, what begins at a place that is reached is within them.** -/
theorem Value.bounded {t : Text} (hruns : DigitRunsAtMost digitLimit t) (hopen : OpensAtMost nestingLimit t) :
    ∀ {k : Nat} {u : Text} {v : Json} {w : Text},
      Value .extended k u v w → Reach .extended t .value k u → Value .bounded k u v w
  | _, _, _, _, .word h, _ => .word h
  | _, _, _, _, .number hn _, hr => .number hn fun _ => hn.length_whole_le hruns hr.suffix
  | _, _, _, _, .string hs, _ => .string hs
  | _, _, _, _, .emptyArray _ hg, hr => .emptyArray (hopen _ _ _ hr (.inl rfl)) hg
  | _, _, _, _, .array hk hg h, hr =>
    .array (hopen _ _ _ hr (.inl rfl)) hg (Items.bounded hruns hopen h (hr.openArray hk hg))
  | _, _, _, _, .emptyObject _ hg, hr => .emptyObject (hopen _ _ _ hr (.inr rfl)) hg
  | _, _, _, _, .object hk hg h hm, hr =>
    .object (hopen _ _ _ hr (.inr rfl)) hg (Pairs.bounded hruns hopen h (hr.openObject hk hg)) hm

theorem Items.bounded {t : Text} (hruns : DigitRunsAtMost digitLimit t) (hopen : OpensAtMost nestingLimit t) :
    ∀ {k : Nat} {u : Text} {vs : List Json} {w : Text},
      Items .extended k u vs w → Reach .extended t .item k u → Items .bounded k u vs w
  | _, _, _, _, .last hv hg, hr => .last (Value.bounded hruns hopen hv hr.item) hg
  | _, _, _, _, .more hv hg hg' h, hr =>
    .more (Value.bounded hruns hopen hv hr.item) hg hg' (Items.bounded hruns hopen h (hr.nextItem hv hg hg'))

theorem Pairs.bounded {t : Text} (hruns : DigitRunsAtMost digitLimit t) (hopen : OpensAtMost nestingLimit t) :
    ∀ {k : Nat} {u : Text} {ps : Members} {w : Text},
      Pairs .extended k u ps w → Reach .extended t .member k u → Pairs .bounded k u ps w
  | _, _, _, _, .last hn hv hg, hr => .last hn (Value.bounded hruns hopen hv (hr.member hn)) hg
  | _, _, _, _, .more hn hv hg hg' h, hr =>
    .more hn (Value.bounded hruns hopen hv (hr.member hn)) hg hg'
      (Pairs.bounded hruns hopen h (hr.nextMember hn hv hg hg'))

end

theorem document_bounded_iff {t : Text} {v : Json} (hruns : DigitRunsAtMost digitLimit t)
    (hopen : OpensAtMost nestingLimit t) : Document .bounded t v ↔ Document .extended t v := by
  constructor
  · rintro ⟨t₁, u, hgap, hv, hend⟩
    exact ⟨t₁, u, hgap, hv.mono Dialect.bounded_le_extended, hend⟩
  · rintro ⟨t₁, u, hgap, hv, hend⟩
    exact ⟨t₁, u, hgap, Value.bounded hruns hopen hv (.start hgap), hend⟩

end MonitorIntake.Json
