import Mathlib.Data.List.Nodup
import MonitorIntake.Proofs.Json.Literal
import MonitorIntake.Proofs.Json.Unambiguous
import MonitorIntake.Proofs.Text.Quoted

/-!
# Different values have different texts

**The text of a value is that of no other value** (`literal_injective`), as strings and names are quoted in it. The proof
is an induction on one of two values with one text, and it has to take in what may follow the value: a number stops only
where no number goes on, which is so at the end, at a comma and at a closing bracket (`toldApart_literal`).

The first code point tells strings, arrays and objects from each other and from the rest (`shape_literal`), and the rest
is words and numbers (`literal_atom`). A closing bracket begins no value, so an empty container is like no other.
-/

namespace MonitorIntake.Json

/-! ## Shapes -/

/-- The ways in which a value is written. -/
inductive Shape
  | atom
  | string
  | array
  | object
  deriving DecidableEq

/-- The way in which a value is written: in marks, in brackets, or else as a word or number. -/
def shape : Json → Shape
  | .string _ => .string
  | .array _ => .array
  | .object _ => .object
  | _ => .atom

/-- The marks and brackets, with the shape of what they open; a closing bracket opens nothing. -/
def brackets : List (CodePoint × Option Shape) :=
  [('\'', some .string), ('"', some .string), ('[', some .array), ('\x7b', some .object), (']', none), ('\x7d', none)]

/-- The shape of the value with which a text begins, by its first code point. -/
def Shape.ofText? : Text → Option Shape
  | c :: _ => (brackets.lookup c).getD (some .atom)
  | [] => none

/-! ## Words and numbers -/

/-- The words of values. -/
def literalAtoms : List (Text × Json) :=
  [("None".toText, .null), ("True".toText, .bool true), ("False".toText, .bool false), ("nan".toText, .double .nan),
    ("inf".toText, .double (.infinite false)), ("-inf".toText, .double (.infinite true))]

/-- The text begins like a number: with a digit, or with a minus sign and a digit. -/
def startsNumber : Text → Bool
  | c :: d :: _ => c.isDigit || (c == ('-' : CodePoint) && d.isDigit)
  | [c] => c.isDigit
  | [] => false

theorem Number.startsNumber {t u : Text} {n : Numeral} (h : Number t n u) : startsNumber t = true := by
  cases h with
  | positive hw _ _ =>
    obtain ⟨c, rest, rfl, hc⟩ := hw.digits.startsDigit
    cases rest <;> simp [Json.startsNumber, hc]
  | negative hw _ _ =>
    obtain ⟨c, rest, rfl, hc⟩ := hw.digits.startsDigit
    simp [Json.startsNumber, hc]

theorem Shape.ofText?_digit {c : CodePoint} (hc : c.isDigit = true) (t : Text) : ofText? (c :: t) = some .atom := by
  have hnone : brackets.lookup c = none := by
    refine List.lookup_eq_none_iff.2 fun p hp => bne_iff_ne.2 ?_
    rintro rfl
    rw [(by decide : ∀ p ∈ brackets, p.1.isDigit = false) p hp] at hc
    cases hc
  rw [ofText?, hnone, Option.getD_none]

theorem Shape.ofText?_number : ∀ {t : Text}, startsNumber t = true → ofText? t = some .atom
  | [_], h => ofText?_digit h []
  | c :: d :: t, h => by
    simp only [startsNumber, Bool.or_eq_true, Bool.and_eq_true, beq_iff_eq] at h
    rcases h with hc | ⟨rfl, -⟩
    · exact ofText?_digit hc (d :: t)
    · rfl

/-- A word begins neither like a number nor with a bracket. -/
theorem head_word {p : Text × Json} (h : p ∈ literalAtoms) (t : Text) :
    startsNumber (p.1 ++ t) = false ∧ Shape.ofText? (p.1 ++ t) = some .atom := by
  simp only [literalAtoms, List.mem_cons, List.not_mem_nil, or_false] at h
  rcases h with rfl | rfl | rfl | rfl | rfl | rfl <;> exact ⟨rfl, rfl⟩

/-- The words differ in their first code points. -/
theorem nodup_heads_literalAtoms : (literalAtoms.map fun p => p.1.head?).Nodup := by decide

/-- **What is in neither marks nor brackets is a word, or a number that denotes it.** -/
theorem literal_atom {v : Json} (h : v.shape = .atom) :
    (v.literal, v) ∈ literalAtoms ∨ ∀ u, ∃ n, Number (v.literal ++ u) n u ∧ n.denotation = v := by
  cases v with
  | null => exact .inl (List.mem_of_getElem? (i := 0) rfl)
  | bool b =>
    cases b with
    | true => exact .inl (List.mem_of_getElem? (i := 1) rfl)
    | false => exact .inl (List.mem_of_getElem? (i := 2) rfl)
  | int i =>
    refine .inr fun u => ?_
    obtain ⟨n, hn, -, -, hvalue⟩ := number_ofInt i u
    exact ⟨n, hn, hvalue⟩
  | double d =>
    cases d with
    | nan => exact .inl (List.mem_of_getElem? (i := 3) rfl)
    | infinite negative =>
      cases negative with
      | false => exact .inl (List.mem_of_getElem? (i := 4) rfl)
      | true => exact .inl (List.mem_of_getElem? (i := 5) rfl)
    | finite negative m =>
      refine .inr fun u => ?_
      obtain ⟨n, hn, -, hvalue⟩ := number_write .plain (by decide) literalWords negative m u
      exact ⟨n, hn, hvalue⟩
  | string _ | array _ | object _ => cases h

/-- **Words and numbers are told apart** where no number goes on. -/
theorem literal_atom_inj {v w : Json} {s r : Text} (hv : v.shape = .atom) (hw : w.shape = .atom) (hs : NumberEnds s)
    (hr : NumberEnds r) (h : v.literal ++ s = w.literal ++ r) : v = w ∧ s = r := by
  -- Two words differ in their first code points, a word and a number in how they begin, two numbers in what is read.
  rcases literal_atom hv with hv | hv
  · rcases literal_atom hw with hw | hw
    · have hne : ∀ p ∈ literalAtoms, p.1 ≠ [] := by decide
      have hhead : v.literal.head? = w.literal.head? := by
        rw [← List.head?_append_of_ne_nil _ (hne _ hv), h, List.head?_append_of_ne_nil _ (hne _ hw)]
      obtain rfl : v = w := (Prod.mk.inj (List.inj_on_of_nodup_map nodup_heads_literalAtoms hv hw hhead)).2
      exact ⟨rfl, List.append_cancel_left h⟩
    · obtain ⟨n, hn, -⟩ := hw r
      rw [← h] at hn
      exact absurd hn.startsNumber (by simp [(head_word hv s).1])
  · obtain ⟨n, hn, hvalue⟩ := hv s
    rcases literal_atom hw with hw | hw
    · rw [h] at hn
      exact absurd hn.startsNumber (by simp [(head_word hw r).1])
    · obtain ⟨m, hm, hvalue'⟩ := hw r
      rw [← hvalue, ← hvalue']
      exact (Atom.number hn).unique hs (h ▸ .number hm) hr

/-! ## The first code point -/

/-- **The first code point tells the shape of a value.** -/
theorem shape_literal (v : Json) (s : Text) : Shape.ofText? (v.literal ++ s) = some v.shape := by
  have hatom : v.shape = .atom → Shape.ofText? (v.literal ++ s) = some .atom := fun h => by
    rcases literal_atom h with hword | hnumber
    · exact (head_word hword s).2
    · obtain ⟨n, hn, -⟩ := hnumber s
      exact Shape.ofText?_number hn.startsNumber
  cases v with
  | string t =>
    rw [literal, Text.quoted, Text.between]
    rcases t.quoteMark_eq with h | h <;> (rw [h]; rfl)
  | array items => rfl
  | object members => rfl
  | _ => exact hatom rfl

theorem shape_eq {v w : Json} {s r : Text} (h : v.literal ++ s = w.literal ++ r) : v.shape = w.shape := by
  have hshape := shape_literal v s
  rw [h, shape_literal w r] at hshape
  exact (Option.some.inj hshape).symm

/-- **No value begins with a closing bracket.** -/
theorem literal_ne_close {close : CodePoint} (hclose : brackets.lookup close = some none) (v : Json) (s r : Text) :
    v.literal ++ s ≠ close :: r := by
  intro heq
  have hshape := shape_literal v s
  rw [heq, Shape.ofText?, hclose] at hshape
  cases hshape

theorem literalMember_ne_close {close : CodePoint} (hclose : brackets.lookup close = some none) (p : Text × Json)
    (s r : Text) : literalMember p ++ s ≠ close :: r := by
  rw [literalMember, List.append_assoc, List.append_assoc]
  exact literal_ne_close hclose (.string p.1) _ r

/-! ## Values -/

/-- The elements of a container are told apart if each of them is and none begins with the closing bracket. -/
theorem bracketed_inj {α : Type} {f : α → Text} {left right : CodePoint} {as bs : List α} {s r : Text}
    (hright : IsMark right) (hcomma : right ≠ ',') (hother : ∀ a s r, f a ++ s ≠ right :: r)
    (has : ∀ a ∈ as, Text.ToldApart f NumberEnds a)
    (h : Text.between left right (Text.joinWith literalComma (as.map f)) ++ s =
      Text.between left right (Text.joinWith literalComma (bs.map f)) ++ r) : as = bs ∧ s = r := by
  rw [Text.between_append, Text.between_append] at h
  have hends : ∀ {c : CodePoint} (t : Text), IsMark c → NumberEnds (c :: t) := fun _ hc => Gap.none.numberEnds_cons hc
  refine Text.joinWith_close_inj (fun s => hends s hright) (fun s => hends _ (.inl rfl)) hother (fun s r heq => ?_) has
    (List.cons.inj h).2
  exact hcomma (List.cons.inj heq).1.symm

theorem toldApart_literalMember {p : Text × Json} (h : Text.ToldApart literal NumberEnds p.2) :
    Text.ToldApart literalMember NumberEnds p := by
  intro q s r hs hr heq
  simp only [literalMember, List.append_assoc] at heq
  obtain ⟨hname, hafter⟩ := Text.quoted_append_inj heq
  obtain ⟨hvalue, hrest⟩ := h q.2 s r hs hr (List.append_cancel_left hafter)
  exact ⟨Prod.ext hname hvalue, hrest⟩

/-- **A value is told from every other by its text**, where no number goes on. -/
theorem toldApart_literal (v : Json) : Text.ToldApart literal NumberEnds v := by
  -- The other value has the same shape, so of the pairs of constructors only equal ones are left.
  induction v with
  | string t =>
    intro w s r _ _ h
    cases w with
    | string u =>
      obtain ⟨rfl, hrest⟩ := Text.quoted_append_inj h
      exact ⟨rfl, hrest⟩
    | _ => cases shape_eq h
  | array items ih =>
    intro w s r _ _ h
    cases w with
    | array items' =>
      rw [literal, literal, literalItems_eq, literalItems_eq] at h
      obtain ⟨rfl, hrest⟩ := bracketed_inj (.inr (.inl rfl)) (by decide) (literal_ne_close rfl) ih h
      exact ⟨rfl, hrest⟩
    | _ => cases shape_eq h
  | object members ih =>
    intro w s r _ _ h
    cases w with
    | object members' =>
      rw [literal, literal, literalMembers_eq, literalMembers_eq] at h
      obtain ⟨rfl, hrest⟩ := bracketed_inj (.inr (.inr rfl)) (by decide) (literalMember_ne_close rfl)
        (fun p hp => toldApart_literalMember (ih p.1 p.2 hp)) h
      exact ⟨rfl, hrest⟩
    | _ => cases shape_eq h
  | _ => exact fun w s r hs hr h => literal_atom_inj rfl (shape_eq h).symm hs hr h

/-- **Different values have different texts.** -/
theorem literal_injective : Function.Injective literal := fun v w h =>
  (toldApart_literal v w [] [] numberEnds_nil numberEnds_nil (by rw [h])).1

end MonitorIntake.Json
