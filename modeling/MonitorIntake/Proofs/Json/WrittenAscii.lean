import MonitorIntake.Proofs.Json.Occurrence
import MonitorIntake.Proofs.Json.WrittenNumbers
import MonitorIntake.Proofs.Json.WrittenStrings

/-!
# Written values keep to ASCII

**A value on one line consists of printable ASCII characters** (`isAsciiLine_write`), whatever code points and numbers it
holds: control characters, code points above U+007E and halves of surrogate pairs are all written by letters or numbers.
An indented value consists of these characters and line feeds (`isAsciiLines_indented`).
-/

namespace MonitorIntake

/-! ## Lines of ASCII -/

/-- The text consists of printable ASCII characters; in particular it has no line end. -/
def Text.IsAsciiLine (t : Text) : Prop := ∀ c ∈ t, 0x20 ≤ c.val ∧ c.val ≤ 0x7E

instance (t : Text) : Decidable t.IsAsciiLine := inferInstanceAs (Decidable (∀ c ∈ t, 0x20 ≤ c.val ∧ c.val ≤ 0x7E))

namespace Text.IsAsciiLine

variable {t u : Text} {c : CodePoint}

theorem nil : IsAsciiLine [] := fun _ h => nomatch h

theorem cons (hc : 0x20 ≤ c.val ∧ c.val ≤ 0x7E) (ht : t.IsAsciiLine) : IsAsciiLine (c :: t) :=
  List.forall_mem_cons.2 ⟨hc, ht⟩

theorem append (ht : t.IsAsciiLine) (hu : u.IsAsciiLine) : IsAsciiLine (t ++ u) :=
  List.forall_mem_append.2 ⟨ht, hu⟩

theorem between {left right : CodePoint} (hleft : 0x20 ≤ left.val ∧ left.val ≤ 0x7E)
    (hright : 0x20 ≤ right.val ∧ right.val ≤ 0x7E) (ht : t.IsAsciiLine) : IsAsciiLine (Text.between left right t) :=
  .cons hleft (ht.append (.cons hright .nil))

theorem of_digits (h : ∀ c ∈ t, c.isDigit = true) : t.IsAsciiLine := by
  intro c hc
  have hdigit := h c hc
  simp only [CodePoint.isDigit, Bool.and_eq_true, decide_eq_true_eq] at hdigit
  omega

theorem zeros (n : Nat) : IsAsciiLine (List.replicate n ('0' : CodePoint)) :=
  of_digits fun _ hc => isDigit_of_mem_zeros hc

theorem ofNat (n : Nat) : IsAsciiLine (Text.ofNat n) := of_digits fun _ hc => isDigit_of_mem_ofNat hc

theorem ofInt : ∀ i : Int, IsAsciiLine (Text.ofInt i)
  | .ofNat n => ofNat n
  | .negSucc n => .cons (by decide) (ofNat (n + 1))

theorem take (ht : t.IsAsciiLine) (n : Nat) : IsAsciiLine (t.take n) := fun c hc => ht c (List.mem_of_mem_take hc)

theorem drop (ht : t.IsAsciiLine) (n : Nat) : IsAsciiLine (t.drop n) := fun c hc => ht c (List.mem_of_mem_drop hc)

end Text.IsAsciiLine

/-- The text consists of lines of printable ASCII characters. -/
def Text.IsAsciiLines (t : Text) : Prop := ∀ c ∈ t, c = '\n' ∨ 0x20 ≤ c.val ∧ c.val ≤ 0x7E

theorem Text.IsAsciiLine.lines {t : Text} (h : t.IsAsciiLine) : t.IsAsciiLines := fun c hc => .inr (h c hc)

theorem Text.IsAsciiLines.append {t u : Text} (ht : t.IsAsciiLines) (hu : u.IsAsciiLines) : (t ++ u).IsAsciiLines :=
  List.forall_mem_append.2 ⟨ht, hu⟩

theorem Text.IsAsciiLines.between {left right : CodePoint} {t : Text} (hleft : 0x20 ≤ left.val ∧ left.val ≤ 0x7E)
    (hright : 0x20 ≤ right.val ∧ right.val ≤ 0x7E) (ht : t.IsAsciiLines) : (Text.between left right t).IsAsciiLines :=
  List.forall_mem_cons.2 ⟨.inr hleft, ht.append (List.forall_mem_singleton.2 (.inr hright))⟩

open Text (IsAsciiLine)

/-! ## Numbers -/

section Layouts

variable {digits : Text}

theorem isAsciiLine_positional (h : digits.IsAsciiLine) (whole : Int) :
    (Layout.positional digits whole).IsAsciiLine := by
  unfold Layout.positional
  split
  · exact (IsAsciiLine.append (by decide) (.zeros _)).append h
  · split
    · exact (h.append (.zeros _)).append (by decide)
    · exact ((h.take _).append (by decide)).append (h.drop _)

theorem isAsciiLine_exponent (least : Nat) (e : Int) : (Layout.exponent least e).IsAsciiLine := by
  refine .cons ?_ ((IsAsciiLine.zeros _).append (.ofNat _))
  split <;> decide

theorem isAsciiLine_scientific (l : Layout) (h : digits.IsAsciiLine) (order : Int) :
    (l.scientific digits order).IsAsciiLine := by
  unfold Layout.scientific
  refine (((h.take 1).append ?_).append (by decide)).append (isAsciiLine_exponent _ _)
  split
  · exact .nil
  · exact .cons (by decide) (h.drop 1)

end Layouts

theorem isAsciiLine_layout (l : Layout) (d : Decimal) : (l.write d).IsAsciiLine := by
  unfold Layout.write
  split
  · exact isAsciiLine_positional (.ofNat _) _
  · exact isAsciiLine_scientific l (.ofNat _) _

theorem isAsciiLine_double {words : NumberWords} (hnan : words.nan.IsAsciiLine) (hinfinite : words.infinite.IsAsciiLine)
    (l : Layout) (d : Double) : (d.write l words).IsAsciiLine := by
  cases d with
  | nan => exact hnan
  | infinite negative =>
    cases negative with
    | true => exact .cons (by decide) hinfinite
    | false => exact hinfinite
  | finite negative m =>
    cases negative with
    | true => exact .cons (by decide) (isAsciiLine_layout l _)
    | false => exact isAsciiLine_layout l _

namespace Json

/-! ## Strings -/

theorem isAsciiLine_hex : ∀ width n : Nat, (Text.hex width n).IsAsciiLine
  | 0, _ => .nil
  | width + 1, n => by
    refine (isAsciiLine_hex width (n / 16)).append (.cons ?_ .nil)
    unfold CodePoint.ofHexDigit
    split <;> (simp only; omega)

theorem isAsciiLine_unitEscape (n : Nat) : (unitEscape n).IsAsciiLine :=
  .cons (by decide) (.cons (by decide) (isAsciiLine_hex 4 n))

theorem isAsciiLine_asciiPoint (c : CodePoint) : (asciiPoint c).IsAsciiLine := by
  unfold asciiPoint
  cases hletter : letterEscape? c with
  | some t =>
    obtain ⟨e, rfl, he⟩ := mem_letters_of_letterEscape? hletter
    exact .cons (by decide) (.cons ((by decide : ∀ p ∈ letters, 0x20 ≤ p.1.val ∧ p.1.val ≤ 0x7E) _ he) .nil)
  | none =>
    simp only
    split
    · next hplain => exact .cons hplain .nil
    · split
      · exact isAsciiLine_unitEscape _
      · exact (isAsciiLine_unitEscape _).append (isAsciiLine_unitEscape _)

theorem isAsciiLine_string (t : Text) : (ascii.string t).IsAsciiLine := by
  refine .between (by decide) (by decide) fun c hc => ?_
  obtain ⟨d, -, hd⟩ := List.mem_flatMap.1 hc
  exact isAsciiLine_asciiPoint d c hd

/-! ## Values -/

theorem isAsciiLine_items : ∀ {items : List Json},
    (∀ v ∈ items, v.write.IsAsciiLine) → (compactItems ascii items).IsAsciiLine
  | [], _ => .nil
  | [v], h => h v List.mem_cons_self
  | v :: w :: rest, h =>
    ((h v List.mem_cons_self).append (by decide)).append
      (isAsciiLine_items fun u hu => h u (List.mem_cons_of_mem _ hu))

theorem isAsciiLine_members : ∀ {members : List (Text × Json)},
    (∀ p ∈ members, p.2.write.IsAsciiLine) → (compactMembers ascii members).IsAsciiLine
  | [], _ => .nil
  | [(k, v)], h => ((isAsciiLine_string k).append (by decide)).append (h (k, v) List.mem_cons_self)
  | (k, v) :: p :: rest, h =>
    ((((isAsciiLine_string k).append (by decide)).append (h (k, v) List.mem_cons_self)).append (by decide)).append
      (isAsciiLine_members fun q hq => h q (List.mem_cons_of_mem _ hq))

theorem isAsciiLine_scalar (v : Json) : (ascii.scalar v).IsAsciiLine := by
  cases v with
  | null => decide
  | bool b => cases b <;> decide
  | int i => exact .ofInt i
  | double d => exact isAsciiLine_double (by decide) (by decide) _ d
  | string t => exact isAsciiLine_string t
  | array items => exact .cons (by decide) (.cons (by decide) .nil)
  | object members => exact .cons (by decide) (.cons (by decide) .nil)

/-- **A value on one line consists of printable ASCII characters.** -/
theorem isAsciiLine_write (v : Json) : v.write.IsAsciiLine := by
  induction v with
  | array items ih => exact .between (by decide) (by decide) (isAsciiLine_items ih)
  | object members ih =>
    exact .between (by decide) (by decide) (isAsciiLine_members fun p hp => ih p.1 p.2 hp)
  | _ =>
    unfold write compact
    exact isAsciiLine_scalar _

/-! ## Indented values -/

theorem isAsciiLines_lineAt (level : Nat) : (lineAt level).IsAsciiLines := by
  refine List.forall_mem_cons.2 ⟨.inl rfl, fun c hc => ?_⟩
  obtain rfl := List.eq_of_mem_replicate hc
  exact .inr (by decide)

theorem isAsciiLines_name (k : Text) : (ascii.string k ++ colon).IsAsciiLines :=
  ((isAsciiLine_string k).append (by decide)).lines

theorem isAsciiLines_indentedItems {level : Nat} : ∀ {items : List Json},
    (∀ v ∈ items, (indented ascii level v).IsAsciiLines) → (indentedItems ascii level items).IsAsciiLines
  | [], _ => IsAsciiLine.nil.lines
  | [v], h => (isAsciiLines_lineAt level).append (h v List.mem_cons_self)
  | v :: w :: rest, h =>
    (((isAsciiLines_lineAt level).append (h v List.mem_cons_self)).append (IsAsciiLine.lines (by decide))).append
      (isAsciiLines_indentedItems fun u hu => h u (List.mem_cons_of_mem _ hu))

theorem isAsciiLines_indentedMembers {level : Nat} : ∀ {members : List (Text × Json)},
    (∀ p ∈ members, (indented ascii level p.2).IsAsciiLines) → (indentedMembers ascii level members).IsAsciiLines
  | [], _ => IsAsciiLine.nil.lines
  | [(k, v)], h => by
    rw [indentedMembers, List.append_assoc (lineAt level)]
    exact ((isAsciiLines_lineAt level).append (isAsciiLines_name k)).append (h (k, v) List.mem_cons_self)
  | (k, v) :: p :: rest, h => by
    rw [indentedMembers, List.append_assoc (lineAt level)]
    · exact ((((isAsciiLines_lineAt level).append (isAsciiLines_name k)).append (h (k, v) List.mem_cons_self)).append
        (IsAsciiLine.lines (by decide))).append
          (isAsciiLines_indentedMembers fun q hq => h q (List.mem_cons_of_mem _ hq))
    · exact List.cons_ne_nil _ _

/-- **An indented value consists of printable ASCII characters and line feeds.** -/
theorem isAsciiLines_indented (v : Json) (level : Nat) : (indented ascii level v).IsAsciiLines := by
  induction v generalizing level with
  | array items ih =>
    rw [indented]
    split
    · exact (isAsciiLine_scalar _).lines
    · exact .between (by decide) (by decide) ((isAsciiLines_indentedItems fun v hv => ih v hv (level + 1)).append
        (isAsciiLines_lineAt level))
  | object members ih =>
    rw [indented]
    split
    · exact (isAsciiLine_scalar _).lines
    · exact .between (by decide) (by decide) ((isAsciiLines_indentedMembers fun p hp =>
        ih p.1 p.2 hp (level + 1)).append (isAsciiLines_lineAt level))
  | _ =>
    unfold indented
    exact (isAsciiLine_scalar _).lines

end Json

end MonitorIntake
