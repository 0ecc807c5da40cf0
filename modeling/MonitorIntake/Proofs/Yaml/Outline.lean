import MonitorIntake.Proofs.Yaml.Scalars
import MonitorIntake.Yaml.Value

/-!
# Outlines

An outline (`Outline`) is a tree of texts under keys, written as a block mapping: one key on each line, and after it a
text between double marks or, on the lines below and indented further, another outline. **The text of an outline is
scanned as its tokens** (`scan_outline`).

A block ends only when the next token is met, so after the lines of an inner outline its block and those in it are still
open. `Lexer.InBlock` leaves open how many they are: it says what they come to as soon as they are ended.
-/

namespace MonitorIntake.Yaml

/-- A key: a word as it is, or a text between double marks. -/
inductive Outline.Key
  | word (t : Text)
  | quoted (t : Text)
  deriving DecidableEq

/-- Keys with texts or outlines; an outline below a key has a column of its own. -/
inductive Outline
  | nil
  | text (key : Outline.Key) (t : Text) (rest : Outline)
  | nested (key : Outline.Key) (column : Nat) (inner rest : Outline)

namespace Outline

namespace Key

/-- The text that a key stands for. -/
def name : Key → Text
  | word t => t
  | quoted t => t

/-- The key as it is written. -/
def spelled : Key → Text
  | word t => t
  | quoted t => t.doubleQuoted

/-- The key is written without marks. -/
def isPlain : Key → Bool
  | word _ => true
  | quoted _ => false

/-- The longest key that is recognised at its colon. -/
def lengthLimit : Nat := 1024

/-- The key is recognised, and stands for its text. -/
def IsProper (key : Key) : Prop :=
  key.spelled.length ≤ lengthLimit ∧
    match key with
    | word t => Token.IsWord t ∧ Tag.implicit t = .text
    | quoted t => t.IsAsciiLine

end Key

/-- A key at a column and its colon, and what follows. -/
def keyed (column : Nat) (key : Key) (after : Text) : Text :=
  Text.spaces column ++ (key.spelled ++ (':' : CodePoint) :: after)

/-- The lines of an outline at a column. -/
def lines (column : Nat) : Outline → Text
  | nil => []
  | text key t rest => keyed column key (' ' :: (t.doubleQuoted ++ ('\n' : CodePoint) :: rest.lines column))
  | nested key inside inner rest => keyed column key ('\n' :: (inner.lines inside ++ rest.lines column))

/-- The text of a document. -/
def document (o : Outline) : Text := o.lines 0

/-- The tokens of a key. -/
def keyTokens (key : Key) : List Token := [.key, .scalar key.name key.isPlain, .value]

/-- The tokens of an outline, without those of its beginning and its end. -/
def tokens : Outline → List Token
  | nil => []
  | text key t rest => keyTokens key ++ .scalar t false :: rest.tokens
  | nested key _ inner rest => keyTokens key ++ .blockMappingStart :: (inner.tokens ++ .blockEnd :: rest.tokens)

/-- The outline can be written at a column: its keys and texts are proper, and each outline in it has lines, which are
indented further. -/
def IsProper (column : Nat) : Outline → Prop
  | nil => True
  | text key t rest => key.IsProper ∧ t.IsAsciiLine ∧ rest.IsProper column
  | nested key inside inner rest =>
    key.IsProper ∧ column < inside ∧ inner ≠ nil ∧ inner.IsProper inside ∧ rest.IsProper column

end Outline

namespace Token.Lexer

/-! ## Scans -/

/-- From here on a scan ends with these tokens. -/
def Scans (x : Lexer) (ts : List Token) : Prop := ∀ fuel, x.cursor.rest.length < fuel → x.run fuel = ⟨ts, none⟩

section Scans

variable {x y : Lexer} {ts : List Token}

/-- A token that takes some of the text. -/
theorem Scans.step (hfresh : x.dropStale = .ok x) (hfetch : x.fetch = .ok (true, y))
    (hless : y.cursor.rest.length < x.cursor.rest.length) (h : y.Scans ts) : x.Scans ts := by
  intro fuel hfuel
  cases fuel with
  | zero => omega
  | succ fuel =>
    rw [run, hfresh]
    simp only [hfetch]
    exact h fuel (by omega)

/-- The last token. -/
theorem Scans.last (hfresh : x.dropStale = .ok x) (hfetch : x.fetch = .ok (false, y)) : x.Scans y.done.reverse := by
  intro fuel hfuel
  cases fuel with
  | zero => omega
  | succ fuel =>
    rw [run, hfresh]
    simp only [hfetch]

end Scans

/-! ## Between tokens -/

section Blanks

variable {c d p : CodePoint} {t u : Text} {i l k n fuel : Nat} {done : List Token} {indent : Int} {outer : List Int}
  {pending : List (Option PendingKey)} {allowed : Bool} {x y z : Lexer}

/-- A character that begins neither a gap nor a comment. -/
def Begins (c : CodePoint) : Prop := (0x20 < c.val ∧ c.val ≤ 0x7E) ∧ c ≠ '#'

theorem skipBlank_spaces (hc : Begins c) :
    skipBlank (fuel + 1) ⟨⟨Text.spaces n ++ c :: u, none, i, l, k⟩, done, indent, outer, pending, allowed⟩ =
      .ok ⟨⟨c :: u, none, i + n, l, k + n⟩, done, indent, outer, pending, allowed⟩ := by
  obtain ⟨hascii, hcomment⟩ := hc
  have hskip : Cursor.skipSpaces ⟨Text.spaces n ++ c :: u, none, i, l, k⟩ = ⟨c :: u, none, i + n, l, k + n⟩ :=
    Cursor.skipSpaces_append n fun d hd => by cases hd; omega
  have hbreak : isBreak c = false := isBreak_of_ascii (by omega)
  simp [skipBlank, hskip, Cursor.skipComment, Cursor.lineBreak?, Cursor.peek, Cursor.peekAt, isPoint, hcomment, hbreak,
    moveTo, bind, Except.bind, pure, Except.pure]

theorem skipBlank_break :
    skipBlank (fuel + 1) ⟨⟨'\n' :: u, none, i, l, k⟩, done, indent, outer, [none], allowed⟩ =
      skipBlank fuel ⟨⟨u, none, i + 1, l + 1, 0⟩, done, indent, outer, [none], true⟩ := by
  cases allowed <;> rfl

theorem skipBlank_end :
    skipBlank (fuel + 1) ⟨⟨[], none, i, l, k⟩, done, indent, outer, pending, allowed⟩ =
      .ok ⟨⟨[], none, i, l, k⟩, done, indent, outer, pending, allowed⟩ := rfl

/-- A sound text has a code point or an end here. -/
theorem peek_eq (hsound : x.cursor.broken = none) : x.cursor.peek = .ok x.cursor.rest.head? := by
  unfold Cursor.peek Cursor.peekAt Cursor.behind
  rw [List.drop_zero, hsound]
  cases x.cursor.rest <;> rfl

theorem toToken_eq (hmark : ∀ c ∈ x.cursor.rest.head?, c.val ≠ 0xFEFF) (hsound : x.cursor.broken = none) :
    x.toToken = x.skipBlank (x.cursor.rest.length + 1) := by
  have hpoint : isPoint x.cursor.rest.head? '\uFEFF' = false := by
    cases hhead : x.cursor.rest.head? with
    | none => rfl
    | some c =>
      have hne : c ≠ '\uFEFF' := by
        rintro rfl
        exact hmark _ hhead rfl
      simpa [isPoint] using hne
  have hskip : x.skipMark = .ok x := by
    simp [skipMark, peek_eq hsound, hpoint, bind, Except.bind, pure, Except.pure]
  rw [toToken, hskip]
  rfl

theorem dropStale_none (h : x.pending = [none]) : x.dropStale = .ok x := by
  cases x
  cases h
  rfl

theorem dropStale_key {key : PendingKey} (h : x.pending = [some key]) (hfresh : isStale x.cursor key = false) :
    x.dropStale = .ok x := by
  cases x
  cases h
  simp only [dropStale, List.any_cons, List.any_nil, List.map_cons, List.map_nil, Option.map_some, Option.getD_some,
    hfresh]
  rfl

/-- The token at which the scan has arrived, after the blocks that end there. -/
theorem fetch_of_token (htoken : x.toToken = .ok y) (hfresh : y.dropStale = .ok y) (hsound : y.cursor.broken = none)
    (hrest : y.cursor.rest = p :: u) (hfetch : (y.unwind y.cursor.column).fetchAt p = .ok z)
    (hbehind : z.cursor.broken = none) : x.fetch = .ok (true, z) := by
  have hpeek : y.cursor.peek = .ok (some p) := by rw [peek_eq hsound, hrest, List.head?_cons]
  simp [fetch, htoken, hfresh, hpeek, hfetch, peek_eq hbehind, bind, Except.bind, pure, Except.pure]

end Blanks

/-! ## Tokens -/

section Tokens

variable {c d : CodePoint} {t u : Text} {i l k : Nat} {done : List Token} {indent : Int} {outer : List Int}
  {pending : List (Option PendingKey)} {allowed : Bool} {x : Lexer}

theorem fetchAt_mark (x : Lexer) : x.fetchAt '"' = x.fetchQuoted true := rfl

/-- A lower-case letter is no mark. -/
theorem fetchAt_letter (hc : 0x61 ≤ c.val ∧ c.val ≤ 0x7A) (x : Lexer) : x.fetchAt c = x.fetchPlain := by
  have hne : ∀ d : CodePoint, d.val < 0x61 ∨ 0x7A < d.val → c ≠ d := by
    rintro d hd rfl
    omega
  have hindicator : isIndicator c = false := by
    have hword : endsWord (some c) = false := by
      rw [endsWord_of_ascii (by omega)]
      simp
      omega
    have hamong : isAmong (some c) "-?:,[]\x7b\x7d#&*!|>'\"%@\x60".toText = false := by
      have hall : ∀ d ∈ "-?:,[]\x7b\x7d#&*!|>'\"%@\x60".toText, d.val < 0x61 ∨ 0x7A < d.val := by decide
      rw [isAmong, ← Bool.not_eq_true, List.contains_iff_mem]
      exact fun hmem => hne c (hall c hmem) rfl
    rw [isIndicator, hword, hamong]
    rfl
  simp [fetchAt, atLineMark, fetchOther, hindicator, bind, Except.bind, hne '%' (by decide), hne '-' (by decide),
    hne '.' (by decide), hne '[' (by decide), hne ']' (by decide), hne '\x7b' (by decide), hne '\x7d' (by decide),
    hne ',' (by decide), hne '?' (by decide), hne ':' (by decide), hne '*' (by decide), hne '&' (by decide),
    hne '!' (by decide), hne '|' (by decide), hne '>' (by decide), hne '\'' (by decide), hne '"' (by decide)]

/-- A colon before a blank is the mark of a value. -/
theorem fetchAt_colon (hd : endsWord (some d) = true) (hpending : x.pending.length = 1)
    (hrest : x.cursor.rest = (':' : CodePoint) :: d :: u) : x.fetchAt ':' = x.fetchValue := by
  have hflow : x.inFlow = false := by simp [inFlow, hpending]
  have hpeek : x.cursor.peekAt 1 = .ok (some d) := by rw [Cursor.peekAt, hrest]; rfl
  have hmark : x.fetchMark ':' = x.fetchValue := by
    simp +decide [fetchMark, hpeek, hd, bind, Except.bind]
  simp +decide [fetchAt, atLineMark, fetchOther, hflow, hmark, bind, Except.bind]

theorem saveKey_allowed (c : Cursor) : saveKey ⟨c, done, indent, outer, [none], true⟩ =
    .ok ⟨c, done, indent, outer, [some ⟨done.length, indent == (c.column : Int), c⟩], true⟩ := rfl

theorem saveKey_not_allowed (c : Cursor) : saveKey ⟨c, done, indent, outer, pending, false⟩ =
    .ok ⟨c, done, indent, outer, pending, false⟩ := rfl

/-- After the scalar of a key, with its colon in front; the key is pending. -/
def afterKey (key : Outline.Key) (u : Text) (i l k : Nat) (done : List Token) (indent : Int) (outer : List Int) :
    Lexer :=
  ⟨⟨(':' : CodePoint) :: u, none, i + key.spelled.length, l, k + key.spelled.length⟩,
    .scalar key.name key.isPlain :: done, indent, outer,
    [some ⟨done.length, indent == (k : Int), ⟨key.spelled ++ (':' : CodePoint) :: u, none, i, l, k⟩⟩], false⟩

/-- A key at a place where one may begin is pending after its scalar. -/
theorem fetchAt_key {key : Outline.Key} (hkey : key.IsProper) (hd : endsWord (some d) = true) (u : Text) (i l k : Nat)
    (done : List Token) (indent : Int) (outer : List Int) : ∃ c v, key.spelled = c :: v ∧ Begins c ∧
      fetchAt c ⟨⟨key.spelled ++ (':' : CodePoint) :: d :: u, none, i, l, k⟩, done, indent, outer, [none], true⟩ =
        .ok (afterKey key (d :: u) i l k done indent outer) := by
  cases key with
  | word w =>
    obtain ⟨-, hw, -⟩ := hkey
    obtain ⟨c, v, rfl⟩ := List.exists_cons_of_ne_nil hw.1
    have hc := hw.2 c List.mem_cons_self
    refine ⟨c, v, rfl, ⟨by omega, ?_⟩, ?_⟩
    · rintro rfl
      exact absurd hc (by decide)
    · rw [fetchAt_letter hc, fetchPlain, saveKey_allowed]
      simp only [Outline.Key.spelled, bind, Except.bind, inFlow, List.length_singleton, Nat.lt_irrefl, decide_false,
        scanPlain_word hw hd]
      rfl
  | quoted t =>
    obtain ⟨-, ht⟩ := hkey
    refine ⟨'"', _, rfl, ⟨by decide, by decide⟩, ?_⟩
    rw [fetchAt_mark, fetchQuoted, saveKey_allowed]
    simp only [Outline.Key.spelled, bind, Except.bind, scanQuoted_doubleQuoted ht]
    rfl

/-- A text between double marks at a place where no key may begin. -/
theorem fetchAt_text (ht : t.IsAsciiLine) :
    fetchAt '"' ⟨⟨t.doubleQuoted ++ u, none, i, l, k⟩, done, indent, outer, pending, false⟩ =
      .ok ⟨⟨u, none, i + t.doubleQuoted.length, l, k + t.doubleQuoted.length⟩, .scalar t false :: done, indent, outer,
        pending, false⟩ := by
  rw [fetchAt_mark, fetchQuoted, saveKey_not_allowed]
  simp only [bind, Except.bind, scanQuoted_doubleQuoted ht]
  rfl

end Tokens

/-! ## Blocks -/

section Blocks

variable {column : Nat} {indent : Int} {outer : List Int} {done : List Token}

/-- A block at a column begun, unless it is open. -/
def opened (column : Nat) : List Token × Int × List Int → List Token × Int × List Int
  | (done, indent, outer) =>
    if indent < column then (.blockMappingStart :: done, column, indent :: outer) else (done, indent, outer)

/-- The mark of a value after a pending key that is the last token. -/
theorem fetchValue_key {c start : Cursor} {s : Token} {required : Bool} :
    fetchValue ⟨c, s :: done, indent, outer, [some ⟨done.length, required, start⟩], false⟩ = .ok
      ⟨c.next, .value :: s :: .key :: (opened start.column (done, indent, outer)).1,
        (opened start.column (done, indent, outer)).2.1, (opened start.column (done, indent, outer)).2.2, [none],
        false⟩ := by
  have hone : done.length + 1 - done.length = 1 := by omega
  have htwo : done.length + 1 + 1 - done.length = 2 := by omega
  by_cases hopen : indent < (start.column : Int)
  · simp [fetchValue, fetchValueOf, openBlock, opened, inFlow, push, moveTo, allow, hopen, hone, htwo]
  · simp [fetchValue, fetchValueOf, openBlock, opened, inFlow, push, moveTo, allow, hopen, hone]

/-- Blocks that are ended are those that are indented further. -/
theorem closeBlocks_spec (column : Int) (done : List Token) (indent : Int) (outer : List Int) :
    (closeBlocks column done indent outer).2.2 = [] ∨ (closeBlocks column done indent outer).2.1 ≤ column := by
  induction outer generalizing done indent with
  | nil => exact .inl rfl
  | cons i outer ih =>
    rw [closeBlocks]
    split
    · exact ih _ _
    · next h => exact .inr (Int.not_lt.1 h)

/-- No block is ended at a column that is not before the innermost. -/
theorem closeBlocks_eq_self {column : Int} (h : outer = [] ∨ indent ≤ column) :
    closeBlocks column done indent outer = (done, indent, outer) := by
  cases outer with
  | nil => rfl
  | cons i outer =>
    rw [closeBlocks, if_neg]
    rcases h with h | h
    · cases h
    · omega

theorem unwind_eq {c : Cursor} {pending : Option PendingKey} {allowed : Bool} (column : Int) :
    unwind column ⟨c, done, indent, outer, [pending], allowed⟩ =
      ⟨c, (closeBlocks column done indent outer).1, (closeBlocks column done indent outer).2.1,
        (closeBlocks column done indent outer).2.2, [pending], allowed⟩ := rfl

end Blocks

/-! ## Lines -/

section Lines

variable {column : Nat} {indent : Int} {outer outer' : List Int} {done done' ts : List Token} {d : CodePoint} {u : Text}
  {i l k : Nat} {x : Lexer} {key : Outline.Key}

/-- The scalar of a key, after whatever stands in front of it. -/
theorem fetch_key (hkey : key.IsProper) (hd : endsWord (some d) = true)
    (htoken : x.toToken =
      .ok ⟨⟨key.spelled ++ (':' : CodePoint) :: d :: u, none, i, l, column⟩, done, indent, outer, [none], true⟩)
    {done₁ : List Token} {indent₁ : Int} {outer₁ : List Int}
    (hclosed : closeBlocks column done indent outer = (done₁, indent₁, outer₁)) :
    x.fetch = .ok (true, afterKey key (d :: u) i l column done₁ indent₁ outer₁) := by
  obtain ⟨c, v, hspelled, -, hscalar⟩ := fetchAt_key hkey hd u i l column done₁ indent₁ outer₁
  have hrest : key.spelled ++ (':' : CodePoint) :: d :: u = c :: (v ++ (':' : CodePoint) :: d :: u) := by
    rw [hspelled, List.cons_append]
  refine fetch_of_token htoken (dropStale_none rfl) rfl hrest ?_ rfl
  rw [unwind_eq, hclosed]
  exact hscalar

/-- A key that is not too long is a key at its colon. -/
theorem dropStale_afterKey (hkey : key.IsProper) :
    (afterKey key u i l k done indent outer).dropStale = .ok (afterKey key u i l k done indent outer) := by
  refine dropStale_key rfl ?_
  have hlimit : key.spelled.length ≤ 1024 := hkey.1
  simpa [isStale, afterKey] using hlimit

/-- The colon of a key; a block begins with the key, unless it is open. -/
theorem fetch_colon (hkey : key.IsProper) (hd : endsWord (some d) = true) (done : List Token)
    (hbound : outer = [] ∨ indent ≤ k) :
    (afterKey key (d :: u) i l k done indent outer).fetch = .ok
      (true, ⟨⟨d :: u, none, i + key.spelled.length + 1, l, k + key.spelled.length + 1⟩,
        .value :: .scalar key.name key.isPlain :: .key :: (opened k (done, indent, outer)).1,
        (opened k (done, indent, outer)).2.1, (opened k (done, indent, outer)).2.2, [none], false⟩) := by
  have htoken : (afterKey key (d :: u) i l k done indent outer).toToken =
      .ok (afterKey key (d :: u) i l k done indent outer) := by
    rw [toToken_eq (fun c hc => by cases hc; decide) rfl]
    exact skipBlank_spaces (n := 0) ⟨by decide, by decide⟩
  have hkept : closeBlocks ((k + key.spelled.length : Nat) : Int) (.scalar key.name key.isPlain :: done) indent outer =
      (.scalar key.name key.isPlain :: done, indent, outer) :=
    closeBlocks_eq_self (hbound.imp_right fun h => by omega)
  refine fetch_of_token htoken (dropStale_afterKey hkey) rfl rfl ?_ rfl
  rw [afterKey, unwind_eq, hkept, fetchAt_colon hd rfl rfl, fetchValue_key, Cursor.next_of_ascii (by decide)]

/-- A key and its colon, after whatever stands in front of them. -/
theorem scans_key (hkey : key.IsProper) (hd : endsWord (some d) = true) (hfresh : x.dropStale = .ok x)
    (htoken : x.toToken =
      .ok ⟨⟨key.spelled ++ (':' : CodePoint) :: d :: u, none, i, l, column⟩, done, indent, outer, [none], true⟩)
    (hless : (key.spelled ++ (':' : CodePoint) :: d :: u).length ≤ x.cursor.rest.length)
    (hopened : opened column (closeBlocks column done indent outer) = (done', (column : Int), outer'))
    (h : ∀ i k, column ≤ k → Scans ⟨⟨d :: u, none, i, l, k⟩,
      .value :: .scalar key.name key.isPlain :: .key :: done', column, outer', [none], false⟩ ts) : x.Scans ts := by
  obtain ⟨⟨done₁, indent₁, outer₁⟩, hclosed⟩ : ∃ b, closeBlocks column done indent outer = b := ⟨_, rfl⟩
  have hbound : outer₁ = [] ∨ indent₁ ≤ column := by
    have hspec := closeBlocks_spec column done indent outer
    rwa [hclosed] at hspec
  rw [hclosed] at hopened
  have hcolon := fetch_colon (u := u) (i := i) (l := l) hkey hd done₁ hbound
  rw [hopened] at hcolon
  obtain ⟨c, v, hspelled, -⟩ := fetchAt_key hkey hd u i l column done₁ indent₁ outer₁
  have hpositive : 0 < key.spelled.length := by rw [hspelled]; exact Nat.succ_pos _
  simp only [List.length_append, List.length_cons] at hless
  refine .step hfresh (fetch_key hkey hd htoken hclosed) ?_ (.step (dropStale_afterKey hkey) hcolon ?_ (h _ _ ?_))
  · show u.length + 1 + 1 < _
    omega
  · show u.length + 1 < u.length + 1 + 1
    omega
  · omega

/-- A text after a colon, further to the right than the block. -/
theorem scans_text {t : Text} (ht : t.IsAsciiLine) (hk : column ≤ k)
    (h : ∀ i l k, Scans ⟨⟨u, none, i, l, k⟩, .scalar t false :: done, column, outer, [none], false⟩ ts) :
    Scans ⟨⟨' ' :: (t.doubleQuoted ++ u), none, i, l, k⟩, done, column, outer, [none], false⟩ ts := by
  have htoken : toToken ⟨⟨' ' :: (t.doubleQuoted ++ u), none, i, l, k⟩, done, column, outer, [none], false⟩ =
      .ok ⟨⟨t.doubleQuoted ++ u, none, i + 1, l, k + 1⟩, done, column, outer, [none], false⟩ := by
    rw [toToken_eq (fun c hc => by cases hc; decide) rfl]
    exact skipBlank_spaces (n := 1) ⟨by decide, by decide⟩
  have hkept : closeBlocks ((k + 1 : Nat) : Int) done column outer = (done, (column : Int), outer) :=
    closeBlocks_eq_self (.inr (by omega))
  have hfetch : fetch ⟨⟨' ' :: (t.doubleQuoted ++ u), none, i, l, k⟩, done, column, outer, [none], false⟩ =
      .ok (true, ⟨⟨u, none, i + 1 + t.doubleQuoted.length, l, k + 1 + t.doubleQuoted.length⟩, .scalar t false :: done,
        column, outer, [none], false⟩) := by
    refine fetch_of_token htoken (dropStale_none rfl) rfl rfl ?_ rfl
    rw [unwind_eq, hkept]
    exact fetchAt_text ht
  refine .step (dropStale_none rfl) hfetch ?_ (h _ _ _)
  show u.length < (t.doubleQuoted ++ u).length + 1
  rw [List.length_append]
  omega

end Lines

/-! ## Outlines -/

section Outlines

variable {column : Nat} {outer : List Int} {done ts : List Token} {c : CodePoint} {u : Text} {x : Lexer} {o : Outline}

/-- A line begins: at the beginning of the text or after a line end. -/
structure AtLine (x : Lexer) (u : Text) : Prop where
  rest : x.cursor.rest = ('\n' : CodePoint) :: u ∨ x.cursor.rest = u ∧ x.cursor.column = 0 ∧ x.keyAllowed = true
  sound : x.cursor.broken = none
  pending : x.pending = [none]

/-- The block at a column is the innermost as soon as those that are indented further are ended. -/
def InBlock (x : Lexer) (column : Nat) (done : List Token) (outer : List Int) : Prop :=
  ∀ c : Int, c ≤ column → closeBlocks c x.done x.indent x.outer = closeBlocks c done column outer

theorem InBlock.opened_eq (h : x.InBlock column done outer) :
    opened column (closeBlocks column x.done x.indent x.outer) = (done, (column : Int), outer) := by
  rw [h column (Int.le_refl _), closeBlocks_eq_self (.inr (Int.le_refl _)), opened, if_neg (Int.lt_irrefl _)]

/-- The block around a block, after the lines of the inner one. -/
theorem InBlock.outer_block {inside : Nat} (hinside : column < inside)
    (h : x.InBlock inside done ((column : Int) :: outer)) : x.InBlock column (.blockEnd :: done) outer := by
  intro c hc
  rw [h c (by omega), closeBlocks, if_pos (by omega)]

theorem AtLine.dropStale_eq (h : x.AtLine u) : x.dropStale = .ok x := dropStale_none h.pending

/-- The token at which a line begins. -/
theorem AtLine.toToken_spaces {n : Nat} (h : x.AtLine (Text.spaces n ++ c :: u)) (hc : Begins c) :
    ∃ i l, x.toToken = .ok ⟨⟨c :: u, none, i, l, n⟩, x.done, x.indent, x.outer, [none], true⟩ := by
  obtain ⟨⟨rest, broken, i, l, k⟩, done, indent, outer, pending, allowed⟩ := x
  obtain ⟨hrest, hsound, hpending⟩ := h
  obtain rfl : broken = none := hsound
  obtain rfl : pending = [none] := hpending
  have hspaces : ∀ fuel i l, skipBlank (fuel + 1)
      ⟨⟨Text.spaces n ++ c :: u, none, i, l, 0⟩, done, indent, outer, [none], true⟩ = .ok ⟨⟨c :: u, none, i + n, l, n⟩, done, indent, outer, [none], true⟩ := by
    intro fuel i l
    rw [skipBlank_spaces hc, Nat.zero_add]
  rcases hrest with hrest | ⟨hrest, hcolumn, hallowed⟩
  · obtain rfl : rest = ('\n' : CodePoint) :: (Text.spaces n ++ c :: u) := hrest
    refine ⟨i + 1 + n, l + 1, (toToken_eq (fun c hc => by cases hc; decide) rfl).trans ?_⟩
    exact skipBlank_break.trans (hspaces _ _ _)
  · obtain rfl : rest = Text.spaces n ++ c :: u := hrest
    obtain rfl : k = 0 := hcolumn
    obtain rfl : allowed = true := hallowed
    refine ⟨i + n, l, (toToken_eq (fun d hd => ?_) rfl).trans (hspaces _ _ _)⟩
    obtain ⟨⟨-, hle⟩, -⟩ := hc
    cases n with
    | zero => cases hd; omega
    | succ n => cases hd; decide

/-- The end of the text after the last line. -/
theorem AtLine.toToken_end (h : x.AtLine []) : ∃ i l k allowed,
    x.toToken = .ok ⟨⟨[], none, i, l, k⟩, x.done, x.indent, x.outer, [none], allowed⟩ := by
  obtain ⟨⟨rest, broken, i, l, k⟩, done, indent, outer, pending, allowed⟩ := x
  obtain ⟨hrest, hsound, hpending⟩ := h
  obtain rfl : broken = none := hsound
  obtain rfl : pending = [none] := hpending
  rcases hrest with hrest | ⟨hrest, -, -⟩
  · obtain rfl : rest = [('\n' : CodePoint)] := hrest
    refine ⟨i + 1, l + 1, 0, true, (toToken_eq (fun c hc => by cases hc; decide) rfl).trans ?_⟩
    exact skipBlank_break.trans skipBlank_end
  · obtain rfl : rest = [] := hrest
    exact ⟨i, l, k, allowed, (toToken_eq (fun c hc => by cases hc) rfl).trans skipBlank_end⟩

/-- The end of the text ends the block of the lines. -/
theorem AtLine.scans_end (h : x.AtLine []) (hblock : x.InBlock 0 done [-1]) :
    x.Scans (done.reverse ++ [.blockEnd, .streamEnd]) := by
  obtain ⟨i, l, k, allowed, htoken⟩ := h.toToken_end
  have hclosed : closeBlocks (-1) x.done x.indent x.outer = (.blockEnd :: done, -1, []) := by
    rw [hblock (-1) (by decide)]
    rfl
  have hend : fetchEnd ⟨⟨[], none, i, l, k⟩, x.done, x.indent, x.outer, [none], allowed⟩ =
      .ok ⟨⟨[], none, i, l, k⟩, .streamEnd :: .blockEnd :: done, -1, [], [none], allowed⟩ := by
    rw [fetchEnd, unwind_eq, hclosed]
    rfl
  have hfetch : x.fetch =
      .ok (false, ⟨⟨[], none, i, l, k⟩, .streamEnd :: .blockEnd :: done, -1, [], [none], allowed⟩) := by
    rw [fetch, htoken]
    simp only [bind, Except.bind, dropStale_none, hend]
    rfl
  have hlast := Scans.last h.dropStale_eq hfetch
  simpa using hlast

/-- A line with a key, when it is known how the scan goes on after the colon. -/
theorem AtLine.scans_keyed {key : Outline.Key} {d : CodePoint} {outer' : List Int} {done' : List Token}
    (h : x.AtLine (Outline.keyed column key (d :: u))) (hkey : key.IsProper) (hd : endsWord (some d) = true)
    (hopened : opened column (closeBlocks column x.done x.indent x.outer) = (done', (column : Int), outer'))
    (hscans : ∀ i l k, column ≤ k → Scans ⟨⟨d :: u, none, i, l, k⟩,
      .value :: .scalar key.name key.isPlain :: .key :: done', column, outer', [none], false⟩ ts) : x.Scans ts := by
  obtain ⟨c, v, hspelled, hc, -⟩ := fetchAt_key hkey hd u 0 0 0 [] 0 []
  have hcons : key.spelled ++ (':' : CodePoint) :: d :: u = c :: (v ++ (':' : CodePoint) :: d :: u) := by
    rw [hspelled, List.cons_append]
  have hspaces : x.AtLine (Text.spaces column ++ c :: (v ++ (':' : CodePoint) :: d :: u)) := by
    rw [← hcons]
    exact h
  obtain ⟨i, l, htoken⟩ := hspaces.toToken_spaces hc
  rw [← hcons] at htoken
  refine scans_key hkey hd h.dropStale_eq htoken ?_ hopened fun i k hk => hscans i l k hk
  have hlength : (key.spelled ++ (':' : CodePoint) :: d :: u).length ≤ (Outline.keyed column key (d :: u)).length := by
    exact (List.suffix_append _ _).length_le
  rcases h.rest with hrest | ⟨hrest, -, -⟩
  · rw [hrest]
    exact hlength.trans (Nat.le_succ _)
  · rw [hrest]
    exact hlength

/-- The lines of an outline, when it is known how the scan goes on after them. -/
theorem AtLine.scans_lines (hproper : o.IsProper column) (hline : x.AtLine (o.lines column ++ u))
    (hopened : o ≠ .nil → opened column (closeBlocks column x.done x.indent x.outer) = (done, (column : Int), outer))
    (hblock : o = .nil → x.InBlock column done outer)
    (h : ∀ y : Lexer, y.AtLine u → y.InBlock column (o.tokens.reverse ++ done) outer → y.Scans ts) : x.Scans ts := by
  induction o generalizing column x done outer u with
  | nil => exact h x hline (hblock rfl)
  | text key t rest ih =>
    obtain ⟨hkey, ht, hrest⟩ := hproper
    have hkeyed : x.AtLine (Outline.keyed column key
        (' ' :: (t.doubleQuoted ++ (('\n' : CodePoint) :: (rest.lines column ++ u))))) := by
      simpa [Outline.lines, Outline.keyed] using hline
    refine hkeyed.scans_keyed hkey rfl (hopened (by simp)) fun i l k hk => ?_
    refine scans_text ht hk fun i l k => ?_
    have hblock' : ∀ {c : Cursor} {done : List Token},
        InBlock ⟨c, done, column, outer, [none], false⟩ column done outer := fun _ _ => rfl
    refine ih hrest ⟨.inl rfl, rfl, rfl⟩ (fun _ => hblock'.opened_eq) (fun _ => hblock') fun y hy hyblock => ?_
    refine h y hy ?_
    simpa [Outline.tokens, Outline.keyTokens] using hyblock
  | nested key inside inner rest ihinner ihrest =>
    obtain ⟨hkey, hinside, hne, hinner, hrest⟩ := hproper
    have hkeyed : x.AtLine (Outline.keyed column key
        ('\n' :: (inner.lines inside ++ (rest.lines column ++ u)))) := by
      simpa [Outline.lines, Outline.keyed] using hline
    refine hkeyed.scans_keyed hkey rfl (hopened (by simp)) fun i l k hk => ?_
    have hbegun : ∀ done : List Token, opened inside (closeBlocks inside done column outer) =
        (.blockMappingStart :: done, (inside : Int), (column : Int) :: outer) := by
      intro done
      rw [closeBlocks_eq_self (.inr (by omega)), opened, if_pos (by omega)]
    refine ihinner hinner ⟨.inl rfl, rfl, rfl⟩ (fun _ => hbegun _) (fun hnil => absurd hnil hne) fun y hy hyblock => ?_
    have hblock' := hyblock.outer_block hinside
    refine ihrest hrest hy (fun _ => hblock'.opened_eq) (fun _ => hblock') fun z hz hzblock => ?_
    refine h z hz ?_
    simpa [Outline.tokens, Outline.keyTokens] using hzblock

end Outlines

end Lexer

/-- **The text of an outline is scanned as its tokens.** -/
theorem scan_outline {o : Outline} (hproper : o.IsProper 0) (hne : o ≠ .nil) :
    scan ⟨o.document, none⟩ = ⟨.blockMappingStart :: (o.tokens ++ [.blockEnd, .streamEnd]), none⟩ := by
  have hline : Lexer.AtLine (Lexer.start ⟨o.document, none⟩) (o.lines 0 ++ []) :=
    ⟨.inr ⟨(List.append_nil _).symm, rfl, rfl⟩, rfl, rfl⟩
  have hscans : (Lexer.start ⟨o.document, none⟩).Scans
      (.blockMappingStart :: (o.tokens ++ [.blockEnd, .streamEnd])) := by
    have hopened : Lexer.opened 0 (Lexer.closeBlocks 0 [] (-1) []) = ([.blockMappingStart], 0, [-1]) := rfl
    refine hline.scans_lines hproper (fun _ => hopened) (fun hnil => absurd hnil hne) fun y hy hblock => ?_
    have hend := hy.scans_end hblock
    simpa using hend
  exact hscans _ (Nat.lt_succ_of_lt (Nat.lt_succ_self _))

end Token

end MonitorIntake.Yaml
