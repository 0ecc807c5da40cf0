import MonitorIntake.Json.Reader
import MonitorIntake.Proofs.Json.Members

/-!
# The grammar of JSON

What it means for a text to be JSON and to denote a value, without a reader. Every production is a relation between a
text and what is left of it: `Value D k t v u` says that `t` begins with a text of the value `v` and goes on with `u`,
at a place where `k` containers are open.

A dialect `D` fixes the words that are values, how many digits an integer may have and how many containers may be open.
`Dialect.extended` is JSON with the three words for numbers that it lacks and without any limit; `Dialect.bounded` is
the part of it within the limits of the reader, and `Dialect.strict` is the part of that without the three words.

Productions may overlap in what they leave: the digits of a number may stop early, white space may be taken in part.
What follows then does not fit, so a whole document has one value (`Document`).
-/

namespace MonitorIntake.Json

/-- What a text may hold. -/
structure Dialect where
  /-- The words that are values. -/
  words : List (Text × Json)
  /-- An integer may have this number of digits. -/
  digits : Nat → Prop
  /-- This number of containers may be open at once. -/
  nesting : Nat → Prop

/-- The words of JSON. -/
def strictWords : List (Text × Json) :=
  [("null".toText, .null), ("true".toText, .bool true), ("false".toText, .bool false)]

/-- JSON with words for the numbers that it lacks. -/
def Dialect.extended : Dialect where
  words := strictWords ++ [("NaN".toText, .double .nan), ("Infinity".toText, .double (.infinite false)),
    ("-Infinity".toText, .double (.infinite true))]
  digits _ := True
  nesting _ := True

/-- The same words, within the limits of the reader. -/
def Dialect.bounded : Dialect where
  words := Dialect.extended.words
  digits n := n ≤ digitLimit
  nesting n := n ≤ nestingLimit

/-- JSON without any other words, within the limits of the reader. -/
def Dialect.strict : Dialect where
  words := strictWords
  digits n := n ≤ digitLimit
  nesting n := n ≤ nestingLimit

/-! ## White space -/

/-- White space, possibly none. -/
inductive Gap : Text → Text → Prop
  | none {t : Text} : Gap t t
  | more {c : CodePoint} {t u : Text} :
      c.val = 0x20 ∨ c.val = 0x09 ∨ c.val = 0x0A ∨ c.val = 0x0D → Gap t u → Gap (c :: t) u

/-! ## Strings -/

/-- A code point of a string, with how it is written: as itself or by a letter, or else by its number. -/
inductive Piece
  | plain (c : CodePoint)
  | unit (c : CodePoint)

/-- The code point that is written. -/
def Piece.point : Piece → CodePoint
  | plain c => c
  | unit c => c

/-- The letters of the short escapes and what they stand for. -/
def letters : List (CodePoint × CodePoint) :=
  [('"', '"'), ('\\', '\\'), ('/', '/'), ('b', '\x08'), ('f', '\x0C'), ('n', '\n'), ('r', '\r'), ('t', '\t')]

/-- One written code point. -/
inductive Spelled : Text → Piece → Text → Prop
  | raw {c : CodePoint} {t : Text} : 0x20 ≤ c.val → c ≠ '"' → c ≠ '\\' → Spelled (c :: t) (.plain c) t
  | letter {e c : CodePoint} {t : Text} : (e, c) ∈ letters → Spelled ('\\' :: e :: t) (.plain c) t
  | number {a b c d p : CodePoint} {i j k l : Nat} {t : Text} : a.hexValue? = some i → b.hexValue? = some j →
      c.hexValue? = some k → d.hexValue? = some l → p.val = ((i * 16 + j) * 16 + k) * 16 + l →
      Spelled ('\\' :: 'u' :: a :: b :: c :: d :: t) (.unit p) t

/-- The written code points up to the closing quote. -/
inductive Pieces : Text → List Piece → Text → Prop
  | close {t : Text} : Pieces ('"' :: t) [] t
  | more {p : Piece} {ps : List Piece} {t u w : Text} : Spelled t p u → Pieces u ps w → Pieces t (p :: ps) w

/-- The text that pieces denote. Two halves of a surrogate pair, both written by their numbers and the high one first,
are one code point; any other half stands for itself. -/
def joinPieces : List Piece → Text
  | .unit high :: .unit low :: rest =>
    if high.isHigh ∧ low.isLow then CodePoint.join high low :: joinPieces rest
    else high :: joinPieces (.unit low :: rest)
  | p :: rest => p.point :: joinPieces rest
  | [] => []

/-- A string in quotes. -/
inductive Quoted : Text → Text → Text → Prop
  | intro {ps : List Piece} {t u : Text} : Pieces t ps u → Quoted ('"' :: t) (joinPieces ps) u

/-! ## Numbers -/

/-- One digit or more. -/
def Digits (t ds u : Text) : Prop := t = ds ++ u ∧ ds ≠ [] ∧ ∀ c ∈ ds, c.isDigit = true

/-- The digits before the point: a zero, or digits of which the first is not zero. -/
inductive Whole : Text → Text → Text → Prop
  | zero {t : Text} : Whole ('0' :: t) ['0'] t
  | other {c : CodePoint} {t ds u : Text} : c ≠ '0' → Digits (c :: t) ds u → Whole (c :: t) ds u

/-- The point and the digits after it, if there are any. -/
inductive Fraction : Text → Text → Text → Prop
  | none {t : Text} : Fraction t [] t
  | some {t ds u : Text} : Digits t ds u → Fraction ('.' :: t) ds u

/-- The sign of an exponent, where no sign means plus. -/
inductive Sign : Text → Bool → Text → Prop
  | none {t : Text} : Sign t false t
  | plus {t : Text} : Sign ('+' :: t) false t
  | minus {t : Text} : Sign ('-' :: t) true t

/-- The exponent, if there is one. -/
inductive Exponent : Text → Option (Bool × Text) → Text → Prop
  | none {t : Text} : Exponent t none t
  | some {e : CodePoint} {negative : Bool} {t t₁ ds u : Text} : e = 'e' ∨ e = 'E' → Sign t negative t₁ →
      Digits t₁ ds u → Exponent (e :: t) (some (negative, ds)) u

/-- A number and its parts. -/
inductive Number : Text → Numeral → Text → Prop
  | positive {t t₁ t₂ u w f : Text} {e : Option (Bool × Text)} :
      Whole t w t₁ → Fraction t₁ f t₂ → Exponent t₂ e u → Number t ⟨false, w, f, e⟩ u
  | negative {t t₁ t₂ u w f : Text} {e : Option (Bool × Text)} :
      Whole t w t₁ → Fraction t₁ f t₂ → Exponent t₂ e u → Number ('-' :: t) ⟨true, w, f, e⟩ u

/-- The number has neither fraction nor exponent. -/
def Numeral.IsInteger (n : Numeral) : Prop := n.fraction = [] ∧ n.exponent = none

instance (n : Numeral) : Decidable n.IsInteger := inferInstanceAs (Decidable (_ ∧ _))

/-- The exponent as an integer. -/
def Numeral.scale (n : Numeral) : Int :=
  match n.exponent with
  | none => 0
  | some (negative, ds) => if negative then -(Text.readDigits ds : Int) else Text.readDigits ds

/-- The decimal of all the digits, without the sign. -/
def Numeral.decimal (n : Numeral) : Decimal := ⟨Text.readDigits (n.whole ++ n.fraction), n.scale - n.fraction.length⟩

/-- What a number denotes: the exact integer, or the double nearest to the decimal. -/
def Numeral.denotation (n : Numeral) : Json :=
  if n.IsInteger then .int (if n.negative then -(Text.readDigits n.whole : Int) else Text.readDigits n.whole)
  else .double (Double.ofDecimal n.negative n.decimal)

/-! ## Values -/

/-- The name of a member with the colon and the white space around it. -/
inductive Named : Text → Text → Text → Prop
  | intro {name t t₁ t₂ u : Text} : Quoted t name t₁ → Gap t₁ (':' :: t₂) → Gap t₂ u → Named t name u

mutual

/-- A value, where `k` containers are open around it. -/
inductive Value (D : Dialect) : Nat → Text → Json → Text → Prop
  | word {k : Nat} {w t : Text} {v : Json} : (w, v) ∈ D.words → Value D k (w ++ t) v t
  | number {k : Nat} {n : Numeral} {t u : Text} :
      Number t n u → (n.IsInteger → D.digits n.whole.length) → Value D k t n.denotation u
  | string {k : Nat} {s t u : Text} : Quoted t s u → Value D k t (.string s) u
  | emptyArray {k : Nat} {t u : Text} :
      D.nesting (k + 1) → Gap t (']' :: u) → Value D k ('[' :: t) (.array []) u
  | array {k : Nat} {vs : List Json} {t t₁ u : Text} :
      D.nesting (k + 1) → Gap t t₁ → Items D (k + 1) t₁ vs u → Value D k ('[' :: t) (.array vs) u
  | emptyObject {k : Nat} {t u : Text} :
      D.nesting (k + 1) → Gap t ('\x7d' :: u) → Value D k ('\x7b' :: t) (.object []) u
  | object {k : Nat} {ps ms : Members} {t t₁ u : Text} :
      D.nesting (k + 1) → Gap t t₁ → Pairs D (k + 1) t₁ ps u → Members.Merged ps ms →
      Value D k ('\x7b' :: t) (.object ms) u

/-- The items of an array and its closing bracket. -/
inductive Items (D : Dialect) : Nat → Text → List Json → Text → Prop
  | last {k : Nat} {v : Json} {t t₁ u : Text} : Value D k t v t₁ → Gap t₁ (']' :: u) → Items D k t [v] u
  | more {k : Nat} {v : Json} {vs : List Json} {t t₁ t₂ t₃ u : Text} :
      Value D k t v t₁ → Gap t₁ (',' :: t₂) → Gap t₂ t₃ → Items D k t₃ vs u → Items D k t (v :: vs) u

/-- The members of an object and its closing brace. -/
inductive Pairs (D : Dialect) : Nat → Text → Members → Text → Prop
  | last {k : Nat} {name : Text} {v : Json} {t t₁ t₂ u : Text} :
      Named t name t₁ → Value D k t₁ v t₂ → Gap t₂ ('\x7d' :: u) → Pairs D k t [(name, v)] u
  | more {k : Nat} {name : Text} {v : Json} {ps : Members} {t t₁ t₂ t₃ t₄ u : Text} :
      Named t name t₁ → Value D k t₁ v t₂ → Gap t₂ (',' :: t₃) → Gap t₃ t₄ → Pairs D k t₄ ps u →
      Pairs D k t ((name, v) :: ps) u

end

/-- A whole text: a value between white space. -/
def Document (D : Dialect) (t : Text) (v : Json) : Prop := ∃ t₁ u, Gap t t₁ ∧ Value D 0 t₁ v u ∧ Gap u []

/-! ## Dialects with more -/

/-- What `D` allows, `D'` allows. -/
structure Dialect.Le (D D' : Dialect) : Prop where
  words : D.words ⊆ D'.words
  digits : ∀ n, D.digits n → D'.digits n
  nesting : ∀ n, D.nesting n → D'.nesting n

theorem Dialect.Le.refl (D : Dialect) : D.Le D := ⟨fun _ h => h, fun _ h => h, fun _ h => h⟩

theorem Dialect.bounded_le_extended : bounded.Le extended := ⟨fun _ h => h, fun _ _ => trivial, fun _ _ => trivial⟩

theorem Dialect.strict_le_bounded : strict.Le bounded :=
  ⟨List.subset_append_left strictWords _, fun _ h => h, fun _ h => h⟩

mutual

/-- A dialect that allows more has the same values and more. -/
theorem Value.mono {D D' : Dialect} (hD : D.Le D') :
    ∀ {k : Nat} {t : Text} {v : Json} {u : Text}, Value D k t v u → Value D' k t v u
  | _, _, _, _, .word h => .word (hD.words h)
  | _, _, _, _, .number hn hd => .number hn fun hi => hD.digits _ (hd hi)
  | _, _, _, _, .string h => .string h
  | _, _, _, _, .emptyArray hk hg => .emptyArray (hD.nesting _ hk) hg
  | _, _, _, _, .array hk hg h => .array (hD.nesting _ hk) hg (Items.mono hD h)
  | _, _, _, _, .emptyObject hk hg => .emptyObject (hD.nesting _ hk) hg
  | _, _, _, _, .object hk hg h hm => .object (hD.nesting _ hk) hg (Pairs.mono hD h) hm

theorem Items.mono {D D' : Dialect} (hD : D.Le D') :
    ∀ {k : Nat} {t : Text} {vs : List Json} {u : Text}, Items D k t vs u → Items D' k t vs u
  | _, _, _, _, .last hv hg => .last (Value.mono hD hv) hg
  | _, _, _, _, .more hv hg hg' h => .more (Value.mono hD hv) hg hg' (Items.mono hD h)

theorem Pairs.mono {D D' : Dialect} (hD : D.Le D') :
    ∀ {k : Nat} {t : Text} {ps : Members} {u : Text}, Pairs D k t ps u → Pairs D' k t ps u
  | _, _, _, _, .last hn hv hg => .last hn (Value.mono hD hv) hg
  | _, _, _, _, .more hn hv hg hg' h => .more hn (Value.mono hD hv) hg hg' (Pairs.mono hD h)

end

end MonitorIntake.Json
