import MonitorIntake.Proofs.Text.Pairs
import MonitorIntake.Proofs.Text.Printable
import MonitorIntake.Text.Console

/-!
# Printable lines on a console

A printable line is printed as it is, on either output and in either medium, and read back as it is: it has no control
sequence, no half of a surrogate pair and no line end (`readBack_asLines`). What is read back of several texts is put
together of what is read back of each, unless a pair of a carriage return and a line feed is torn apart
(`readBack_append`).
-/

namespace MonitorIntake

namespace Text

/-- The texts as lines, each with a line end. -/
def asLines (ts : List Text) : Text := ts.flatMap fun t => t ++ "\n".toText

/-- Every control sequence begins with an escape character. -/
theorem withoutControls_eq_self {t : Text} (h : ∀ c ∈ t, c.val ≠ 0x1B) : t.withoutControls = t := by
  unfold Text.withoutControls
  induction t with
  | nil => rfl
  | cons c rest ih =>
    obtain ⟨hc, hrest⟩ := List.forall_mem_cons.1 h
    have hnone : controlLength (c :: rest) = 0 := by
      cases rest with
      | nil => rfl
      | cons d rest => exact if_neg fun hescape => hc hescape.1
    simp only [withoutControlsFrom, hnone, ih hrest]

section Printable

variable {t : Text}

theorem not_escape_of_isPrintable (h : t.isPrintable = true) {c : CodePoint} (hc : c ∈ t) : c.val ≠ 0x1B := by
  obtain ⟨-, hcontrol, -⟩ := CodePoint.visible_of_isPrintable (isPrintable_iff.1 h c hc)
  intro hescape
  simp [CodePoint.isControl, hescape] at hcontrol

theorem withoutControls_of_isPrintable (h : t.isPrintable = true) : t.withoutControls = t :=
  withoutControls_eq_self fun _ hc => not_escape_of_isPrintable h hc

theorem hasSurrogate_of_isPrintable (h : t.isPrintable = true) : t.hasSurrogate = false :=
  hasSurrogate_eq_false.2 fun c hc => (CodePoint.visible_of_isPrintable (isPrintable_iff.1 h c hc)).2.2

theorem escapeHalves_eq_self (h : t.hasSurrogate = false) : t.escapeHalves = t := by
  unfold escapeHalves
  induction t with
  | nil => rfl
  | cons c rest ih =>
    have hall := hasSurrogate_eq_false.1 h
    have hrest := hasSurrogate_eq_false.2 fun d hd => hall d (List.mem_cons_of_mem _ hd)
    rw [List.flatMap_cons, hall c List.mem_cons_self, ih hrest]
    rfl

/-- Printable lines have no line ends but their own. -/
theorem not_return_of_mem_asLines {ts : List Text} (h : ∀ t ∈ ts, t.isPrintable = true) {c : CodePoint}
    (hc : c ∈ asLines ts) : c.val ≠ 0x0D := by
  obtain ⟨t, ht, hc⟩ := List.mem_flatMap.1 hc
  rcases List.mem_append.1 hc with hc | hc
  · obtain ⟨hbreak, -, -⟩ := CodePoint.visible_of_isPrintable (isPrintable_iff.1 (h t ht) c hc)
    rintro hreturn
    simp [CodePoint.isLineBreak, hreturn] at hbreak
  · exact (by decide : ∀ c ∈ "\n".toText, c.val ≠ 0x0D) c hc

end Printable

/-! ## Line ends that are read back -/

theorem joinLineEnds_eq_self {t : Text} (h : ∀ c ∈ t, c.val ≠ 0x0D) : joinLineEnds t = t := by
  induction t with
  | nil => rfl
  | cons c rest ih =>
    obtain ⟨hc, hrest⟩ := List.forall_mem_cons.1 h
    rw [joinLineEnds, if_neg fun hpair => hc hpair.1, ih hrest]

/-- A text that does not begin with a line feed is read back on its own. -/
theorem joinLineEnds_append {t u : Text} (hu : u.head?.map CodePoint.val ≠ some 0x0A) :
    joinLineEnds (t ++ u) = joinLineEnds t ++ joinLineEnds u := by
  induction t with
  | nil => rfl
  | cons c rest ih =>
    rw [List.cons_append, joinLineEnds, joinLineEnds, ih]
    cases rest with
    | nil =>
      rw [List.nil_append, if_neg fun hpair => hu hpair.2, if_neg fun hpair => absurd hpair.2 (by simp)]
      rfl
    | cons d rest =>
      rw [List.cons_append, List.head?_cons, List.head?_cons]
      split <;> rfl

/-- The last code point is kept. -/
theorem getLast?_joinLineEnds (t : Text) : (joinLineEnds t).getLast? = t.getLast? := by
  induction t with
  | nil => rfl
  | cons c rest ih =>
    rw [joinLineEnds]
    split
    · next hpair =>
      cases rest with
      | nil => cases hpair.2
      | cons d rest => rw [ih, List.getLast?_cons_cons]
    · rw [List.getLast?_cons, List.getLast?_cons, ih]

end Text

namespace Medium

variable {m : Medium} {t u : Text}

theorem canWrite_append : m.canWrite (t ++ u) = (m.canWrite t && m.canWrite u) := by
  unfold canWrite Text.hasSurrogate
  rw [List.any_append]
  cases decide (m = text) <;> simp

theorem canWrite_of_isPrintable (h : t.isPrintable = true) : m.canWrite t = true := by
  simp [canWrite, Text.hasSurrogate_of_isPrintable h]

/-- The text is printed as it is: it has no escape character and can be written. -/
def Prints (m : Medium) (t : Text) : Prop := (∀ c ∈ t, c.val ≠ 0x1B) ∧ m.canWrite t = true

theorem Prints.of_isPrintable (h : t.isPrintable = true) : m.Prints t :=
  ⟨fun _ hc => Text.not_escape_of_isPrintable h hc, canWrite_of_isPrintable h⟩

theorem prints_append : m.Prints (t ++ u) ↔ m.Prints t ∧ m.Prints u := by
  simp only [Prints, List.forall_mem_append, canWrite_append, Bool.and_eq_true, and_and_and_comm]

theorem errorText_of_isPrintable (h : t.isPrintable = true) : m.errorText t = t := by
  rw [errorText, Text.escapeHalves_eq_self (Text.hasSurrogate_of_isPrintable h), ite_self]

theorem readBack_nil (m : Medium) : m.readBack [] = [] := ite_self _

theorem readBack_append (hu : u.head?.map CodePoint.val ≠ some 0x0A) :
    m.readBack (t ++ u) = m.readBack t ++ m.readBack u := by
  unfold readBack
  split
  · exact Text.joinLineEnds_append hu
  · rfl

/-- A text without carriage returns is read back as it is. -/
theorem readBack_eq_self (h : ∀ c ∈ t, c.val ≠ 0x0D) : m.readBack t = t := by
  rw [readBack, Text.joinLineEnds_eq_self h, ite_self]

/-- **Printable lines are read back as they are.** -/
theorem readBack_asLines {ts : List Text} (h : ∀ t ∈ ts, t.isPrintable = true) :
    m.readBack (Text.asLines ts) = Text.asLines ts :=
  readBack_eq_self fun _ hc => Text.not_return_of_mem_asLines h hc

theorem readBack_line (h : t.isPrintable = true) : m.readBack (t ++ "\n".toText) = t ++ "\n".toText := by
  have hline : ∀ u ∈ [t], u.isPrintable = true := List.forall_mem_singleton.2 h
  simpa [Text.asLines] using readBack_asLines (m := m) hline

theorem getLast?_readBack (t : Text) : (m.readBack t).getLast? = t.getLast? := by
  unfold readBack
  split
  · exact Text.getLast?_joinLineEnds t
  · rfl

end Medium

end MonitorIntake
