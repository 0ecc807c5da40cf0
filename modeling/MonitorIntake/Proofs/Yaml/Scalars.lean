import MonitorIntake.Proofs.Json.WrittenAscii
import MonitorIntake.Yaml.Token.Stream

/-!
# Scalars on one line

A text of printable ASCII characters between double marks, with a backslash before each mark and each backslash in it
(`Text.doubleQuoted`), is scanned as the text itself (`scanQuoted_doubleQuoted`): no other character has a meaning there.
A word of lower-case letters before a colon is scanned as itself (`scanPlain_word`). The cursor stays on its line.
-/

namespace MonitorIntake

/-! ## Texts between double marks -/

/-- A code point between double marks. -/
def CodePoint.escaped (c : CodePoint) : Text := if c = '"' ∨ c = '\\' then ['\\', c] else [c]

namespace Text

/-- A text between double marks, with a backslash before each mark and each backslash. -/
def doubleQuoted (t : Text) : Text := between '"' '"' (t.flatMap CodePoint.escaped)

theorem IsAsciiLine.escaped {t : Text} (h : t.IsAsciiLine) : IsAsciiLine (t.flatMap CodePoint.escaped) := by
  intro c hc
  obtain ⟨d, hd, hc⟩ := List.mem_flatMap.1 hc
  unfold CodePoint.escaped at hc
  split at hc
  · rcases List.mem_cons.1 hc with rfl | hc
    · decide
    · rw [List.mem_singleton.1 hc]
      exact h d hd
  · rw [List.mem_singleton.1 hc]
    exact h d hd

theorem IsAsciiLine.doubleQuoted {t : Text} (h : t.IsAsciiLine) : t.doubleQuoted.IsAsciiLine :=
  .between (by decide) (by decide) h.escaped

theorem length_escaped_le (t : Text) : (t.flatMap CodePoint.escaped).length ≤ 2 * t.length := by
  induction t with
  | nil => exact Nat.le_refl 0
  | cons c t ih =>
    have hc : c.escaped.length ≤ 2 := by
      unfold CodePoint.escaped
      split <;> simp
    rw [List.flatMap_cons, List.length_append, List.length_cons]
    omega

theorem length_doubleQuoted_le (t : Text) : t.doubleQuoted.length ≤ 2 * t.length + 2 := by
  have := length_escaped_le t
  simp only [doubleQuoted, between, List.length_cons, List.length_append, List.length_nil]
  omega

theorem isAsciiLine_spaces (n : Nat) : (spaces n).IsAsciiLine := by
  intro c hc
  obtain rfl := List.eq_of_mem_replicate hc
  decide

theorem length_spaces (n : Nat) : (spaces n).length = n := List.length_replicate

end Text

namespace Yaml

/-! ## Places on a line -/

section Characters

variable {c : CodePoint}

theorem isBreak_of_ascii (h : 0x20 ≤ c.val ∧ c.val ≤ 0x7E) : isBreak c = false := by
  simp only [isBreak, Bool.or_eq_false_iff, decide_eq_false_iff_not]
  omega

theorem isWhite_of_ascii (h : 0x20 ≤ c.val ∧ c.val ≤ 0x7E) : isWhite c = decide (c.val = 0x20) := by
  have htab : c.val ≠ 0x09 := by omega
  simp [isWhite, htab]

theorem endsWord_of_ascii (h : 0x20 ≤ c.val ∧ c.val ≤ 0x7E) : endsWord (some c) = decide (c.val = 0x20) := by
  simp [endsWord, isBreak_of_ascii h, isWhite_of_ascii h]

end Characters

namespace Cursor

variable {c : CodePoint} {t u : Text} {b : Option Error} {i l k : Nat}

theorem next_of_ascii (h : 0x20 ≤ c.val ∧ c.val ≤ 0x7E) :
    (⟨c :: u, b, i, l, k⟩ : Cursor).next = ⟨u, b, i + 1, l, k + 1⟩ := by
  have hmark : c.val ≠ 0xFEFF := by omega
  simp [next, isBreak_of_ascii h, hmark]

/-- Printable ASCII characters do not leave the line, and each takes one column. -/
theorem forward_of_ascii (h : t.IsAsciiLine) :
    forward t.length ⟨t ++ u, b, i, l, k⟩ = ⟨u, b, i + t.length, l, k + t.length⟩ := by
  induction t generalizing i k with
  | nil => rfl
  | cons c t ih =>
    obtain ⟨hc, ht⟩ := List.forall_mem_cons.1 h
    rw [List.length_cons, forward, List.cons_append, next_of_ascii hc, ih ht]
    simp only [Cursor.mk.injEq, true_and]
    omega

/-- A class of code points that all of a text is in, and that what follows is not in, is skipped with the text. -/
theorem skipWhile_append {p : CodePoint → Bool} (ht : t.IsAsciiLine) (hp : ∀ c ∈ t, p c = true)
    (hu : ∀ c ∈ u.head?, p c = false) :
    (⟨t ++ u, b, i, l, k⟩ : Cursor).rest.takeWhile p = t ∧
      skipWhile p ⟨t ++ u, b, i, l, k⟩ = ⟨u, b, i + t.length, l, k + t.length⟩ := by
  have hrest : u.takeWhile p = [] := by
    cases u with
    | nil => rfl
    | cons c u => exact List.takeWhile_cons_of_neg (by simp [hu c rfl])
  have htake : (t ++ u).takeWhile p = t := by
    rw [List.takeWhile_append_of_pos hp, hrest, List.append_nil]
  refine ⟨htake, ?_⟩
  rw [skipWhile, htake, forward_of_ascii ht]

/-- So many spaces are skipped before something else. -/
theorem skipSpaces_append (n : Nat) (hu : ∀ c ∈ u.head?, c.val ≠ 0x20) :
    skipSpaces ⟨Text.spaces n ++ u, b, i, l, k⟩ = ⟨u, b, i + n, l, k + n⟩ := by
  have hskip := (skipWhile_append (b := b) (i := i) (l := l) (k := k) (Text.isAsciiLine_spaces n)
    (p := fun c => decide (c.val = 0x20)) (u := u) ?_ ?_).2
  · rwa [Text.length_spaces] at hskip
  · intro c hc
    rw [List.eq_of_mem_replicate hc]
    rfl
  · intro c hc
    simpa using hu c hc

end Cursor

namespace Token

/-! ## Quoted scalars -/

section Quoted

variable {c d : CodePoint} {t u done : Text} {b : Option Error} {i l k fuel : Nat}

theorem quotedRest_mark : quotedRest true (fuel + 1) done ⟨'"' :: u, b, i, l, k⟩ =
    .ok (done.reverse, ⟨u, b, i + 1, l, k + 1⟩) := rfl

/-- A code point that is no space is read on its own, after its backslash if it has one. -/
theorem quotedRest_point (h : 0x20 ≤ c.val ∧ c.val ≤ 0x7E) (hspace : c.val ≠ 0x20) :
    quotedRest true (fuel + 1) done ⟨c.escaped ++ u, b, i, l, k⟩ =
      quotedRest true fuel (c :: done) ⟨u, b, i + c.escaped.length, l, k + c.escaped.length⟩ := by
  unfold CodePoint.escaped
  split
  · next hspecial => rcases hspecial with rfl | rfl <;> rfl
  · next hplain =>
    obtain ⟨hmark, hslash⟩ := not_or.1 hplain
    have hword : endsWord (some c) = false := by simp [endsWord_of_ascii h, hspace]
    rw [List.length_singleton, ← Cursor.next_of_ascii h]
    simp [quotedRest, Cursor.peek, Cursor.peekAt, hmark, hslash, hword, bind, Except.bind]

/-- Spaces before something else on the same line are kept. -/
theorem quotedGap_spaces (n : Nat) (hd : 0x20 ≤ d.val ∧ d.val ≤ 0x7E) (hspace : d.val ≠ 0x20) :
    quotedGap ⟨Text.spaces n ++ d :: u, b, i, l, k⟩ = .ok (Text.spaces n, ⟨d :: u, b, i + n, l, k + n⟩) := by
  obtain ⟨htake, hskip⟩ := Cursor.skipWhile_append (b := b) (i := i) (l := l) (k := k) (p := isWhite) (u := d :: u)
    (Text.isAsciiLine_spaces n)
    (fun c hc => by rw [List.eq_of_mem_replicate hc]; rfl)
    (fun c hc => by cases hc; simp [isWhite_of_ascii hd, hspace])
  rw [Text.length_spaces] at hskip
  simp [quotedGap, hskip, htake, Cursor.peek, Cursor.peekAt, Cursor.lineBreak?, isBreak_of_ascii hd, bind, Except.bind,
    pure, Except.pure]

theorem quotedRest_spaces (n : Nat) (hd : 0x20 ≤ d.val ∧ d.val ≤ 0x7E) (hspace : d.val ≠ 0x20) :
    quotedRest true (fuel + 1) done ⟨Text.spaces (n + 1) ++ d :: u, b, i, l, k⟩ =
      quotedRest true fuel (Text.spaces (n + 1) ++ done) ⟨d :: u, b, i + (n + 1), l, k + (n + 1)⟩ := by
  have hreverse : (Text.spaces (n + 1)).reverse = Text.spaces (n + 1) := List.reverse_replicate
  have hpeek : Cursor.peek ⟨Text.spaces (n + 1) ++ d :: u, b, i, l, k⟩ = .ok (some ' ') := rfl
  have hword : endsWord (some (' ' : CodePoint)) = true := rfl
  have hmark : (' ' : CodePoint) ≠ '"' ∧ (' ' : CodePoint) ≠ '\\' := by decide
  rw [quotedRest, hpeek]
  simp [hword, hmark, quotedGap_spaces (n + 1) hd hspace, hreverse, bind, Except.bind]

/-- A text begins with some spaces, or none, and goes on with something else. -/
theorem exists_spaces : ∀ t : Text, ∃ n r, t = Text.spaces n ++ r ∧ ∀ c ∈ r.head?, c.val ≠ 0x20
  | [] => ⟨0, [], rfl, by simp⟩
  | c :: t => by
    by_cases hspace : c.val = 0x20
    · obtain ⟨n, r, rfl, hr⟩ := exists_spaces t
      obtain rfl : c = ' ' := CodePoint.ext hspace
      exact ⟨n + 1, r, rfl, hr⟩
    · exact ⟨0, c :: t, rfl, by simpa using hspace⟩

theorem escaped_spaces (n : Nat) : (Text.spaces n).flatMap CodePoint.escaped = Text.spaces n := by
  induction n with
  | zero => rfl
  | succ n ih => rw [Text.spaces, List.replicate_succ, List.flatMap_cons, ← Text.spaces, ih]; rfl

/-- What follows the spaces of a quoted text is no space. -/
theorem exists_head_escaped (ht : t.IsAsciiLine) (hhead : ∀ c ∈ t.head?, c.val ≠ 0x20) (u : Text) :
    ∃ d v, t.flatMap CodePoint.escaped ++ ('"' : CodePoint) :: u = d :: v ∧ (0x20 ≤ d.val ∧ d.val ≤ 0x7E) ∧
      d.val ≠ 0x20 := by
  cases t with
  | nil => exact ⟨_, _, rfl, by decide, by decide⟩
  | cons c t =>
    rw [List.flatMap_cons]
    unfold CodePoint.escaped
    split
    · exact ⟨_, _, rfl, by decide, by decide⟩
    · exact ⟨_, _, rfl, ht c List.mem_cons_self, hhead c rfl⟩

/-- The rest of a quoted scalar is the rest of its text. -/
theorem quotedRest_escaped (ht : t.IsAsciiLine) (hfuel : (t.flatMap CodePoint.escaped).length < fuel) :
    quotedRest true fuel done ⟨t.flatMap CodePoint.escaped ++ ('"' : CodePoint) :: u, b, i, l, k⟩ =
      .ok (done.reverse ++ t, ⟨u, b, i + (t.flatMap CodePoint.escaped).length + 1, l,
        k + (t.flatMap CodePoint.escaped).length + 1⟩) := by
  -- By induction on the fuel and not on the text, because spaces are read together.
  induction fuel generalizing t done i k with
  | zero => omega
  | succ fuel ih =>
    obtain ⟨n, r, rfl, hr⟩ := exists_spaces t
    obtain ⟨-, hascii⟩ := List.forall_mem_append.1 ht
    rw [List.flatMap_append, escaped_spaces, List.length_append, Text.length_spaces] at *
    cases n with
    | succ n =>
      obtain ⟨d, v, hv, hd, hspace⟩ := exists_head_escaped hascii hr u
      rw [List.append_assoc, hv, quotedRest_spaces n hd hspace, ← hv, ih hascii (by omega)]
      simp [Text.spaces]
      omega
    | zero =>
      cases r with
      | nil => exact quotedRest_mark.trans (by simp [Text.spaces])
      | cons c t =>
        obtain ⟨hc, hrest⟩ := List.forall_mem_cons.1 hascii
        have hpositive : 0 < c.escaped.length := by
          unfold CodePoint.escaped
          split <;> exact Nat.succ_pos _
        rw [List.flatMap_cons, List.length_append] at hfuel ⊢
        rw [Text.spaces, List.replicate_zero, List.nil_append, List.append_assoc, quotedRest_point hc (hr c rfl),
          ih hrest (by omega)]
        simp
        omega

/-- **A text between double marks is scanned as itself.** -/
theorem scanQuoted_doubleQuoted (ht : t.IsAsciiLine) : scanQuoted true ⟨t.doubleQuoted ++ u, b, i, l, k⟩ =
    .ok (t, ⟨u, b, i + t.doubleQuoted.length, l, k + t.doubleQuoted.length⟩) := by
  have hnext : (⟨t.doubleQuoted ++ u, b, i, l, k⟩ : Cursor).next =
      ⟨t.flatMap CodePoint.escaped ++ ('"' : CodePoint) :: u, b, i + 1, l, k + 1⟩ := by
    simp only [Text.doubleQuoted, Text.between, List.cons_append, List.append_assoc, List.nil_append]
    exact Cursor.next_of_ascii (by decide)
  rw [scanQuoted, hnext, quotedRest_escaped ht]
  · simp only [Text.doubleQuoted, Text.between, List.length_cons, List.length_append, List.length_nil, List.reverse_nil,
      List.nil_append, Except.ok.injEq, Prod.mk.injEq, Cursor.mk.injEq, true_and]
    omega
  · simp only [Text.doubleQuoted, Text.between, List.length_cons, List.length_append, List.length_nil]
    omega

end Quoted

/-! ## Plain scalars -/

section Plain

variable {d : CodePoint} {w u : Text} {i l k : Nat}

/-- The text is a word of lower-case letters. -/
def IsWord (w : Text) : Prop := w ≠ [] ∧ ∀ c ∈ w, 0x61 ≤ c.val ∧ c.val ≤ 0x7A

theorem IsWord.isAsciiLine (h : IsWord w) : w.IsAsciiLine := by
  intro c hc
  have := h.2 c hc
  omega

/-- A word ends at a colon before a blank. -/
theorem plainRun_word (hw : ∀ c ∈ w, 0x61 ≤ c.val ∧ c.val ≤ 0x7A) (hd : endsWord (some d) = true) :
    plainRun false (w ++ (':' : CodePoint) :: d :: u) = w.length := by
  induction w with
  | nil =>
    have hcolon : endsWord (some (':' : CodePoint)) = false := rfl
    simp [plainRun, hcolon, hd]
  | cons c w ih =>
    obtain ⟨hc, hrest⟩ := List.forall_mem_cons.1 hw
    have hword : endsWord (some c) = false := by
      rw [endsWord_of_ascii (by omega)]
      simp
      omega
    have hcolon : c ≠ ':' := by
      rintro rfl
      exact absurd hc (by decide)
    rw [List.cons_append, plainRun, ih hrest]
    simp [hword, hcolon]

theorem plainWord_word (hw : IsWord w) (hd : endsWord (some d) = true) :
    plainWord false ⟨w ++ (':' : CodePoint) :: d :: u, none, i, l, k⟩ = .ok w := by
  have hcolon : Cursor.peekAt ⟨w ++ (':' : CodePoint) :: d :: u, none, i, l, k⟩ w.length = .ok (some ':') := by
    simp [Cursor.peekAt]
  have hblank : Cursor.peekAt ⟨w ++ (':' : CodePoint) :: d :: u, none, i, l, k⟩ (w.length + 1) = .ok (some d) := by
    have hdrop : (w ++ (':' : CodePoint) :: d :: u).drop (w.length + 1) = d :: u := by
      rw [← List.drop_drop, List.drop_left]
      rfl
    rw [Cursor.peekAt, hdrop]
  simp [plainWord, plainRun_word hw.2 hd, hcolon, hblank, isPoint, bind, Except.bind, pure, Except.pure]

/-- There is no gap before a colon. -/
theorem plainGap_colon : plainGap ⟨(':' : CodePoint) :: u, none, i, l, k⟩ =
    .ok ⟨[], false, ⟨(':' : CodePoint) :: u, none, i, l, k⟩⟩ := rfl

/-- **A word before a colon is scanned as itself.** -/
theorem scanPlain_word (hw : IsWord w) (hd : endsWord (some d) = true) (indent : Int) :
    scanPlain false indent ⟨w ++ (':' : CodePoint) :: d :: u, none, i, l, k⟩ =
      .ok (w, false, ⟨(':' : CodePoint) :: d :: u, none, i + w.length, l, k + w.length⟩) := by
  obtain ⟨c, rest, hrest⟩ := List.exists_cons_of_ne_nil hw.1
  have hpeek : Cursor.peek ⟨w ++ (':' : CodePoint) :: d :: u, none, i, l, k⟩ = .ok (some c) := by
    rw [hrest]
    rfl
  have hcomment : isPoint (some c) '#' = false := by
    have hc := hw.2 c (hrest ▸ List.mem_cons_self)
    have hne : c ≠ '#' := by
      rintro rfl
      exact absurd hc (by decide)
    simpa [isPoint] using hne
  have hempty : w.isEmpty = false := List.isEmpty_eq_false_iff.2 hw.1
  have hgap := Cursor.forward_of_ascii (u := (':' : CodePoint) :: d :: u) (b := none) (i := i) (l := l) (k := k)
    hw.isAsciiLine
  simp [scanPlain, plainWords, hpeek, hcomment, plainWord_word hw hd, hempty, hgap, plainGap_colon, bind, Except.bind,
    pure, Except.pure]

end Plain

end Token

end Yaml

end MonitorIntake
