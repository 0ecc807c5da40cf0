import Mathlib.Algebra.Group.Nat.Defs
import MonitorIntake.Proofs.Json.WrittenStrings
import MonitorIntake.Text.Quoted

/-!
# Quoted texts are told apart

**A quoted text is that of one text only, whatever comes after it** (`quoted_append_inj`): the mark at its front is the
one that ends it, since inside it stands behind a backslash only, and each code point can be told from what is written
for it (`Shows.unique`).

What is said of texts put together serves all lists that are written element by element and closed by a mark
(`flatMap_close_inj`, `joinWith_close_inj`): if every element is told apart before what may follow it (`ToldApart`), so
is the list.
-/

namespace MonitorIntake.Text

/-! ## Texts put together -/

section Elements

variable {α : Type} {f : α → Text} {Ends : Text → Prop} {separator : Text} {close : CodePoint}

/-- Before an end, the text of `a` is that of no other element, and it stops at one place. -/
def ToldApart (f : α → Text) (Ends : Text → Prop) (a : α) : Prop :=
  ∀ b s r, Ends s → Ends r → f a ++ s = f b ++ r → a = b ∧ s = r

theorem ToldApart.append_left {a : α} (h : ToldApart f Ends a) (separator : Text) :
    ToldApart (fun b => separator ++ f b) Ends a := by
  intro b s r hs hr heq
  simp only [List.append_assoc] at heq
  exact h b s r hs hr (List.append_cancel_left heq)

theorem flatMap_close_ends (hclose : ∀ s, Ends (close :: s)) (hmore : ∀ a s, Ends (f a ++ s)) (s : Text) :
    ∀ as : List α, Ends (as.flatMap f ++ close :: s)
  | [] => hclose s
  | a :: as => by
    rw [List.flatMap_cons, List.append_assoc]
    exact hmore a _

/-- **Elements up to a mark with which none of them begins** are told apart if each of them is. -/
theorem flatMap_close_inj {s r : Text} (hclose : ∀ s, Ends (close :: s)) (hmore : ∀ a s, Ends (f a ++ s))
    (hother : ∀ a s r, f a ++ s ≠ close :: r) : ∀ {as bs : List α}, (∀ a ∈ as, ToldApart f Ends a) →
      as.flatMap f ++ close :: s = bs.flatMap f ++ close :: r → as = bs ∧ s = r
  | [], [], _, h => ⟨rfl, (List.cons.inj h).2⟩
  | [], b :: bs, _, h => by
    rw [List.flatMap_cons, List.append_assoc] at h
    exact absurd h.symm (hother b _ _)
  | a :: as, [], _, h => by
    rw [List.flatMap_cons, List.append_assoc] at h
    exact absurd h (hother a _ _)
  | a :: as, b :: bs, ha, h => by
    rw [List.flatMap_cons, List.flatMap_cons, List.append_assoc, List.append_assoc] at h
    obtain ⟨rfl, hrest⟩ := ha a List.mem_cons_self _ _ _ (flatMap_close_ends hclose hmore s as)
      (flatMap_close_ends hclose hmore r bs) h
    obtain ⟨rfl, hs⟩ := flatMap_close_inj hclose hmore hother (fun c hc => ha c (List.mem_cons_of_mem _ hc)) hrest
    exact ⟨rfl, hs⟩

theorem between_append (left right : CodePoint) (t u : Text) :
    between left right t ++ u = left :: (t ++ right :: u) := by
  simp [between]

theorem joinWith_cons (separator t : Text) : ∀ ts : List Text,
    joinWith separator (t :: ts) = t ++ ts.flatMap (separator ++ ·)
  | [] => (List.append_nil t).symm
  | u :: ts => by
    show t ++ separator ++ joinWith separator (u :: ts) = _
    rw [joinWith_cons separator u ts, List.flatMap_cons, List.append_assoc, List.append_assoc]

/-- **Elements with a separator between each two**, up to a mark with which neither they nor the separator begin. -/
theorem joinWith_close_inj {s r : Text} (hclose : ∀ s, Ends (close :: s)) (hseparator : ∀ s, Ends (separator ++ s))
    (hother : ∀ a s r, f a ++ s ≠ close :: r) (hcomma : ∀ s r, separator ++ s ≠ close :: r) :
    ∀ {as bs : List α}, (∀ a ∈ as, ToldApart f Ends a) →
      joinWith separator (as.map f) ++ close :: s = joinWith separator (bs.map f) ++ close :: r → as = bs ∧ s = r
  | [], [], _, h => ⟨rfl, (List.cons.inj h).2⟩
  | [], b :: bs, _, h => by
    rw [List.map_cons, joinWith_cons, List.append_assoc] at h
    exact absurd h.symm (hother b _ _)
  | a :: as, [], _, h => by
    rw [List.map_cons, joinWith_cons, List.append_assoc] at h
    exact absurd h (hother a _ _)
  | a :: as, b :: bs, ha, h => by
    -- With a separator in front of both, these are elements that bring their separators with them.
    have hlist : ∀ (c : α) (cs : List α) (t : Text), separator ++ (joinWith separator ((c :: cs).map f) ++ t) =
        (c :: cs).flatMap (fun c => separator ++ f c) ++ t := fun c cs t => by
      simp only [List.map_cons, joinWith_cons, List.flatMap_map, List.flatMap_cons, List.append_assoc]
    refine flatMap_close_inj hclose (fun c s => ?_) (fun c s r => ?_)
      (fun c hc => (ha c hc).append_left separator) (by rw [← hlist, ← hlist, h])
    · rw [List.append_assoc]
      exact hseparator _
    · rw [List.append_assoc]
      exact hcomma _ _

end Elements

/-! ## Numbers in hexadecimal digits -/

theorem length_hex : ∀ width n : Nat, (hex width n).length = width
  | 0, _ => rfl
  | width + 1, n => by rw [hex, List.length_append, length_hex width, List.length_singleton]

/-- Digits enough for a number are those of no other such number. -/
theorem hex_inj : ∀ {width n m : Nat}, n < 16 ^ width → m < 16 ^ width → hex width n = hex width m → n = m
  | 0, _, _, hn, hm, _ => by omega
  | width + 1, n, m, hn, hm, h => by
    obtain ⟨hfront, hlast⟩ := List.append_inj h (by rw [length_hex, length_hex])
    have hdigit : n % 16 = m % 16 := by
      have hvalue := congrArg CodePoint.hexValue? (List.cons.inj hlast).1
      rw [Json.hexValue?_ofHexDigit, Json.hexValue?_ofHexDigit] at hvalue
      exact Option.some.inj hvalue
    have hquotient : n / 16 = m / 16 :=
      hex_inj (Nat.div_lt_of_lt_mul (by omega)) (Nat.div_lt_of_lt_mul (by omega)) hfront
    omega

/-! ## What is written for a code point -/

/-- What a single code point after a backslash stands for. -/
def escapedPoints : List (CodePoint × CodePoint) :=
  [('\'', '\''), ('"', '"'), ('\\', '\\'), ('n', '\n'), ('r', '\r'), ('t', '\t')]

/-- The letters after a backslash that announce a number, with the count of its digits. -/
def escapeWidths : List (CodePoint × Nat) := [('x', 2), ('u', 4), ('U', 8)]

/-- Inside the marks, the text begins with what is written for a code point. -/
inductive Shows (mark : CodePoint) : Text → CodePoint → Text → Prop
  | plain {c : CodePoint} {t : Text} : c ≠ '\\' → c ≠ mark → Shows mark (c :: t) c t
  | letter {e c : CodePoint} {t : Text} : (e, c) ∈ escapedPoints → Shows mark ('\\' :: e :: t) c t
  | number {e c : CodePoint} {width : Nat} {t : Text} : (e, width) ∈ escapeWidths → c.val < 16 ^ width →
      Shows mark ('\\' :: e :: (hex width c.val ++ t)) c t

/-- A letter stands for one thing, and it is either a code point or the width of a number. -/
theorem escapes_unique : (∀ p ∈ escapedPoints, ∀ q ∈ escapedPoints, p.1 = q.1 → p.2 = q.2) ∧
    (∀ p ∈ escapeWidths, ∀ q ∈ escapeWidths, p.1 = q.1 → p.2 = q.2) ∧
    ∀ p ∈ escapedPoints, ∀ q ∈ escapeWidths, p.1 ≠ q.1 := by decide

/-- **What is written for a code point is written for no other**, and it ends at one place. -/
theorem Shows.unique {mark c d : CodePoint} {t u w : Text} (h : Shows mark t c u) (h' : Shows mark t d w) :
    c = d ∧ u = w := by
  obtain ⟨hletters, hwidths, hdisjoint⟩ := escapes_unique
  cases h with
  | plain hc _ =>
    cases h' with
    | plain _ _ => exact ⟨rfl, rfl⟩
    | letter _ | number _ _ => exact absurd rfl hc
  | letter he =>
    cases h' with
    | plain hd _ => exact absurd rfl hd
    | letter he' => exact ⟨hletters _ he _ he' rfl, rfl⟩
    | number he' _ => exact absurd rfl (hdisjoint _ he _ he')
  | @number e _ width _ he hc =>
    -- Both widths are open here, so the two texts are compared after the letter has fixed them.
    generalize htext : ('\\' : CodePoint) :: e :: (hex width c.val ++ u) = t at h'
    cases h' with
    | plain hd _ =>
      cases htext
      exact absurd rfl hd
    | letter he' =>
      cases htext
      exact absurd rfl (hdisjoint _ he' _ he)
    | @number e' _ width' _ he' hd =>
      obtain ⟨rfl, hdigits⟩ := List.cons.inj (List.cons.inj htext).2
      obtain rfl : width = width' := hwidths _ he _ he' rfl
      obtain ⟨hhex, hrest⟩ := List.append_inj hdigits (by rw [length_hex, length_hex])
      exact ⟨CodePoint.ext (hex_inj hc hd hhex), hrest⟩

theorem shows_quotedPoint {mark : CodePoint} (hmark : mark = '\'' ∨ mark = '"') (c : CodePoint) (t : Text) :
    Shows mark (quotedPoint mark c ++ t) c t := by
  unfold quotedPoint
  split_ifs with hself hfeed hreturn htab _ hbyte hshort
  · have hc : c = '\'' ∨ c = '"' ∨ c = '\\' := by
      rcases hself with rfl | hslash
      · exact hmark.imp_right .inl
      · exact .inr (.inr (CodePoint.ext hslash))
    refine .letter ?_
    rcases hc with rfl | rfl | rfl <;> decide
  · obtain rfl : c = '\n' := CodePoint.ext hfeed
    exact .letter (by decide)
  · obtain rfl : c = '\r' := CodePoint.ext hreturn
    exact .letter (by decide)
  · obtain rfl : c = '\t' := CodePoint.ext htab
    exact .letter (by decide)
  · refine .plain (fun hc => hself (.inr ?_)) fun hc => hself (.inl hc)
    rw [hc]
    rfl
  · exact .number (by decide) hbyte
  · exact .number (by decide) hshort
  · exact .number (by decide) (Nat.lt_trans c.isLt (by decide))

/-! ## Quoted texts -/

theorem quoteMark_eq (t : Text) : t.quoteMark = '\'' ∨ t.quoteMark = '"' := by
  unfold quoteMark
  split
  · exact .inr rfl
  · exact .inl rfl

/-- The closing mark is not what is written for a code point. -/
theorem quotedPoint_ne_mark {mark : CodePoint} (hmark : mark = '\'' ∨ mark = '"') (c : CodePoint) (s r : Text) :
    quotedPoint mark c ++ s ≠ mark :: r := by
  intro heq
  have hshows := shows_quotedPoint hmark c s
  rw [heq] at hshows
  cases hshows with
  | plain _ hne => exact hne rfl
  | letter _ | number _ _ => exact absurd hmark (by decide)

theorem toldApart_quotedPoint {mark : CodePoint} (hmark : mark = '\'' ∨ mark = '"') (c : CodePoint) :
    ToldApart (quotedPoint mark) (fun _ => True) c := by
  intro d s r _ _ heq
  have hshows := shows_quotedPoint hmark d r
  rw [← heq] at hshows
  exact (shows_quotedPoint hmark c s).unique hshows

/-- **A quoted text is that of one text only**, whatever comes after it. -/
theorem quoted_append_inj {t u s r : Text} (h : t.quoted ++ s = u.quoted ++ r) : t = u ∧ s = r := by
  have hmark := t.quoteMark_eq
  rw [quoted, quoted, between_append, between_append] at h
  obtain ⟨hsame, hpoints⟩ := List.cons.inj h
  rw [← hsame] at hpoints
  have hpoint := fun c (_ : c ∈ t) => toldApart_quotedPoint hmark c
  exact flatMap_close_inj (fun _ => trivial) (fun _ _ => trivial) (quotedPoint_ne_mark hmark) hpoint hpoints

end MonitorIntake.Text
