import Mathlib
import MonitorIntake.Yaml.Token.Stream

/-!
# Errors of a scan

A scan meets the fault of a source only behind its text: of all errors of a scan, only that one can be about bytes that
are no text (`error_of_scan`). Every function of the scanner leaves what is behind the text as it is and fails with such
errors only.
-/

set_option mvcgen.warning false

open Std.Do

namespace MonitorIntake.Yaml

/-- The error is the given one behind a text, or none about bytes. -/
@[grind] def Error.IsFrom (behind : Option Error) (e : Error) : Prop :=
  behind = some e ∨ ∀ u, e ≠ .undecodable u

/-- A value leaves what is behind a text as it is, and an error is the one from there or not about bytes. -/
abbrev Intact {α : Type} (behind : Option Error) (broken : α → Option Error) : PostCond α (.except Error .pure) :=
  post⟨fun r => ⌜broken r = behind⌝, fun e => ⌜e.IsFrom behind⌝⟩

/-- What a triple with this postcondition says. -/
theorem Intact.outcomes {α : Type} {behind : Option Error} {broken : α → Option Error} {x : Except Error α}
    (h : ⦃⌜True⌝⦄ x ⦃Intact behind broken⦄) :
    (∀ a, x = .ok a → broken a = behind) ∧ ∀ e, x = .error e → e.IsFrom behind := by
  constructor
  · rintro a rfl
    exact h trivial
  · rintro e rfl
    exact h trivial

/-- A failure without any other step. -/
@[spec] theorem error_spec {α : Type} (e : Error) {Q : PostCond α (.except Error .pure)} :
    ⦃Q.2.1 e⦄ (Except.error e : Except Error α) ⦃Q⦄ := .rfl

/-- A value without any other step. -/
@[spec] theorem ok_spec {α : Type} (a : α) {Q : PostCond α (.except Error .pure)} :
    ⦃Q.1 a⦄ (Except.ok a : Except Error α) ⦃Q⦄ := .rfl

/-- A failure by throwing; the triple of the library for it leaves a second monad open. -/
@[spec high] theorem throw_spec {α : Type} (e : Error) {Q : PostCond α (.except Error .pure)} :
    ⦃Q.2.1 e⦄ (MonadExceptOf.throw e : Except Error α) ⦃Q⦄ := .rfl

namespace Cursor

@[simp, grind =] theorem broken_next (c : Cursor) : c.next.broken = c.broken := by
  unfold next
  split
  · rfl
  · split
    · rfl
    · split <;> rfl

@[simp, grind =] theorem broken_forward (n : Nat) (c : Cursor) : (c.forward n).broken = c.broken := by
  induction n generalizing c with
  | zero => rfl
  | succ n ih => rw [forward, ih, broken_next]

@[simp, grind =] theorem broken_skipWhile (p : CodePoint → Bool) (c : Cursor) :
    (c.skipWhile p).broken = c.broken := broken_forward _ c

@[simp, grind =] theorem broken_skipSpaces (c : Cursor) : c.skipSpaces.broken = c.broken := broken_skipWhile _ c

@[spec] theorem behind_spec {α : Type} (c : Cursor) (v : α) :
    ⦃⌜True⌝⦄ c.behind v ⦃Intact c.broken fun _ => c.broken⦄ := by
  mvcgen [behind] with grind

@[spec] theorem peekAt_spec (c : Cursor) (n : Nat) :
    ⦃⌜True⌝⦄ c.peekAt n ⦃Intact c.broken fun _ => c.broken⦄ := by
  mvcgen [peekAt]

@[spec] theorem peek_spec (c : Cursor) :
    ⦃⌜True⌝⦄ c.peek ⦃Intact c.broken fun _ => c.broken⦄ := by
  mvcgen [peek]

@[spec] theorem look_spec (c : Cursor) (n : Nat) :
    ⦃⌜True⌝⦄ c.look n ⦃Intact c.broken fun _ => c.broken⦄ := by
  mvcgen [look]

@[spec] theorem skipComment_spec (c : Cursor) :
    ⦃⌜True⌝⦄ c.skipComment ⦃Intact c.broken fun r => r.broken⦄ := by
  mvcgen [skipComment] with grind

@[spec] theorem lineBreak?_spec (c : Cursor) :
    ⦃⌜True⌝⦄ c.lineBreak? ⦃Intact c.broken fun r => (r.map fun p => p.2.broken).getD c.broken⦄ := by
  mvcgen [lineBreak?] with grind

@[spec] theorem skipBreak_spec (c : Cursor) :
    ⦃⌜True⌝⦄ c.skipBreak ⦃Intact c.broken fun r => r.broken⦄ := by
  mvcgen [skipBreak]

@[spec] theorem atMark_spec (marks : List CodePoint) (c : Cursor) :
    ⦃⌜True⌝⦄ c.atMark marks ⦃Intact c.broken fun _ => c.broken⦄ := by
  mvcgen [atMark]

@[spec] theorem atSeparator_spec (c : Cursor) :
    ⦃⌜True⌝⦄ c.atSeparator ⦃Intact c.broken fun _ => c.broken⦄ := by
  mvcgen [atSeparator]

end Cursor

namespace Token

/-! ## Plain scalars -/

@[spec] theorem plainWord_spec (flow : Bool) (c : Cursor) :
    ⦃⌜True⌝⦄ plainWord flow c ⦃Intact c.broken fun _ => c.broken⦄ := by
  mvcgen [plainWord]

@[spec] theorem plainBreaks_spec (fuel : Nat) (breaks : Text) (c : Cursor) :
    ⦃⌜True⌝⦄ plainBreaks fuel breaks c ⦃Intact c.broken fun r => r.2.2.broken⦄ := by
  induction fuel generalizing breaks c with
  | zero => mvcgen [plainBreaks]
  | succ fuel ih => mvcgen [plainBreaks, ih] with grind

@[spec] theorem plainGap_spec (c : Cursor) :
    ⦃⌜True⌝⦄ plainGap c ⦃Intact c.broken fun r => r.after.broken⦄ := by
  mvcgen [plainGap] with grind

@[spec] theorem plainWords_spec (flow : Bool) (indent : Int) (fuel : Nat) (done gap : Text) (keyAllowed : Bool)
    (c : Cursor) :
    ⦃⌜True⌝⦄ plainWords flow indent fuel done gap keyAllowed c ⦃Intact c.broken fun r => r.2.2.broken⦄ := by
  induction fuel generalizing done gap keyAllowed c with
  | zero => mvcgen [plainWords]
  | succ fuel ih => mvcgen [plainWords, ih] with grind

@[spec] theorem scanPlain_spec (flow : Bool) (indent : Int) (c : Cursor) :
    ⦃⌜True⌝⦄ scanPlain flow indent c ⦃Intact c.broken fun r => r.2.2.broken⦄ := by
  mvcgen [scanPlain]

/-! ## Quoted scalars -/

@[spec] theorem quotedBreaks_spec (fuel : Nat) (breaks : Text) (c : Cursor) :
    ⦃⌜True⌝⦄ quotedBreaks fuel breaks c ⦃Intact c.broken fun r => r.2.broken⦄ := by
  induction fuel generalizing breaks c with
  | zero => mvcgen [quotedBreaks]
  | succ fuel ih => mvcgen [quotedBreaks, ih] with grind

@[spec] theorem quotedGap_spec (c : Cursor) :
    ⦃⌜True⌝⦄ quotedGap c ⦃Intact c.broken fun r => r.2.broken⦄ := by
  mvcgen [quotedGap] with grind

@[spec] theorem hexDigits_spec (width : Nat) (c : Cursor) :
    ⦃⌜True⌝⦄ hexDigits width c ⦃Intact c.broken fun _ => c.broken⦄ := by
  mvcgen [hexDigits] with grind

@[spec] theorem scanEscape_spec (c : Cursor) :
    ⦃⌜True⌝⦄ scanEscape c ⦃Intact c.broken fun r => r.2.broken⦄ := by
  mvcgen [scanEscape, escapedPoint] with grind

@[spec] theorem quotedRest_spec (double : Bool) (fuel : Nat) (done : Text) (c : Cursor) :
    ⦃⌜True⌝⦄ quotedRest double fuel done c ⦃Intact c.broken fun r => r.2.broken⦄ := by
  induction fuel generalizing done c with
  | zero =>
    mvcgen [quotedRest]
    grind
  | succ fuel ih => mvcgen [quotedRest, ih] with grind

@[spec] theorem scanQuoted_spec (double : Bool) (c : Cursor) :
    ⦃⌜True⌝⦄ scanQuoted double c ⦃Intact c.broken fun r => r.2.broken⦄ := by
  mvcgen [scanQuoted] with grind

/-! ## Block scalars -/

@[spec] theorem scanChomping_spec (c : Cursor) :
    ⦃⌜True⌝⦄ scanChomping c ⦃Intact c.broken fun r => r.2.broken⦄ := by
  mvcgen [scanChomping] with grind

@[spec] theorem scanIncrement_spec (c : Cursor) :
    ⦃⌜True⌝⦄ scanIncrement c ⦃Intact c.broken fun r => r.2.broken⦄ := by
  mvcgen [scanIncrement] with grind

@[spec] theorem scanBlockHeader_spec (c : Cursor) :
    ⦃⌜True⌝⦄ scanBlockHeader c ⦃Intact c.broken fun r => r.2.broken⦄ := by
  mvcgen [scanBlockHeader] with grind

@[spec] theorem blockLead_spec (fuel : Nat) (breaks : Text) (widest : Nat) (c : Cursor) :
    ⦃⌜True⌝⦄ blockLead fuel breaks widest c ⦃Intact c.broken fun r => r.2.2.broken⦄ := by
  induction fuel generalizing breaks widest c with
  | zero => mvcgen [blockLead]
  | succ fuel ih => mvcgen [blockLead, ih] with grind

@[simp, grind =] theorem broken_skipIndent (column : Nat) (c : Cursor) : (skipIndent column c).broken = c.broken :=
  Cursor.broken_forward _ c

@[spec] theorem blockBreaks_spec (indent fuel : Nat) (breaks : Text) (c : Cursor) :
    ⦃⌜True⌝⦄ blockBreaks indent fuel breaks c ⦃Intact c.broken fun r => r.2.broken⦄ := by
  induction fuel generalizing breaks c with
  | zero => mvcgen [blockBreaks]
  | succ fuel ih => mvcgen [blockBreaks, ih] with grind

@[spec] theorem blockLines_spec (folded : Bool) (chomping : Chomping) (indent fuel : Nat) (done breaks : Text)
    (c : Cursor) :
    ⦃⌜True⌝⦄ blockLines folded chomping indent fuel done breaks c ⦃Intact c.broken fun r => r.2.broken⦄ := by
  induction fuel generalizing done breaks c with
  | zero => mvcgen [blockLines]
  | succ fuel ih => mvcgen [blockLines, ih] with grind

@[spec] theorem scanBlock_spec (folded : Bool) (parent : Int) (c : Cursor) :
    ⦃⌜True⌝⦄ scanBlock folded parent c ⦃Intact c.broken fun r => r.2.broken⦄ := by
  mvcgen [scanBlock] with grind

/-! ## Anchors, tags and directives -/

@[spec] theorem scanAnchor_spec (c : Cursor) :
    ⦃⌜True⌝⦄ scanAnchor c ⦃Intact c.broken fun r => r.2.broken⦄ := by
  mvcgen [scanAnchor] with grind

@[spec] theorem escapeDigit_spec (n : Nat) (c : Cursor) :
    ⦃⌜True⌝⦄ escapeDigit n c ⦃Intact c.broken fun _ => c.broken⦄ := by
  mvcgen [escapeDigit] with grind

@[spec] theorem uriBytes_spec (fuel : Nat) (done : List UInt8) (c : Cursor) :
    ⦃⌜True⌝⦄ uriBytes fuel done c ⦃Intact c.broken fun r => r.2.broken⦄ := by
  induction fuel generalizing done c with
  | zero => mvcgen [uriBytes]
  | succ fuel ih => mvcgen [uriBytes, ih] with grind

@[spec] theorem uriRest_spec (fuel : Nat) (done : Text) (c : Cursor) :
    ⦃⌜True⌝⦄ uriRest fuel done c ⦃Intact c.broken fun r => r.2.broken⦄ := by
  induction fuel generalizing done c with
  | zero => mvcgen [uriRest]
  | succ fuel ih => mvcgen [uriRest, ih] with grind

@[spec] theorem scanUri_spec (c : Cursor) :
    ⦃⌜True⌝⦄ scanUri c ⦃Intact c.broken fun r => r.2.broken⦄ := by
  mvcgen [scanUri] with grind

@[spec] theorem scanHandle_spec (c : Cursor) :
    ⦃⌜True⌝⦄ scanHandle c ⦃Intact c.broken fun r => r.2.broken⦄ := by
  mvcgen [scanHandle] with grind

@[spec] theorem scanShorthand_spec (c : Cursor) :
    ⦃⌜True⌝⦄ scanShorthand c ⦃Intact c.broken fun r => r.2.broken⦄ := by
  mvcgen [scanShorthand] with grind

@[spec] theorem scanVerbatim_spec (c : Cursor) :
    ⦃⌜True⌝⦄ scanVerbatim c ⦃Intact c.broken fun r => r.2.broken⦄ := by
  mvcgen [scanVerbatim] with grind

@[spec] theorem scanTag_spec (c : Cursor) :
    ⦃⌜True⌝⦄ scanTag c ⦃Intact c.broken fun r => r.2.broken⦄ := by
  mvcgen [scanTag] with grind

@[spec] theorem scanVersionNumber_spec (c : Cursor) :
    ⦃⌜True⌝⦄ scanVersionNumber c ⦃Intact c.broken fun r => r.2.broken⦄ := by
  mvcgen [scanVersionNumber] with grind

@[spec] theorem scanVersion_spec (c : Cursor) :
    ⦃⌜True⌝⦄ scanVersion c ⦃Intact c.broken fun r => r.2.broken⦄ := by
  mvcgen [scanVersion] with grind

@[spec] theorem scanTagDirective_spec (c : Cursor) :
    ⦃⌜True⌝⦄ scanTagDirective c ⦃Intact c.broken fun r => r.2.broken⦄ := by
  mvcgen [scanTagDirective] with grind

@[spec] theorem scanDirective_spec (c : Cursor) :
    ⦃⌜True⌝⦄ scanDirective c ⦃Intact c.broken fun r => r.2.broken⦄ := by
  mvcgen [scanDirective] with grind

/-! ## Steps of a scan -/

namespace Lexer

@[simp, grind =] theorem cursor_push (token : Token) (x : Lexer) : (x.push token).cursor = x.cursor := rfl

@[simp, grind =] theorem cursor_moveTo (c : Cursor) (x : Lexer) : (x.moveTo c).cursor = c := rfl

@[simp, grind =] theorem cursor_allow (keyAllowed : Bool) (x : Lexer) : (x.allow keyAllowed).cursor = x.cursor := rfl

@[simp, grind =] theorem cursor_unwind (column : Int) (x : Lexer) : (x.unwind column).cursor = x.cursor := by
  unfold unwind
  split <;> rfl

@[simp, grind =] theorem cursor_openBlock (column number : Nat) (first : Token) (x : Lexer) :
    (x.openBlock column number first).cursor = x.cursor := by
  unfold openBlock
  split <;> rfl

@[simp, grind =] theorem cursor_fetchValueOf (k : PendingKey) (x : Lexer) :
    (x.fetchValueOf k).cursor = x.cursor.next := by
  simp [fetchValueOf]

@[spec] theorem skipBlank_spec (fuel : Nat) (x : Lexer) :
    ⦃⌜True⌝⦄ skipBlank fuel x ⦃Intact x.cursor.broken fun r => r.cursor.broken⦄ := by
  induction fuel generalizing x with
  | zero => mvcgen [skipBlank]
  | succ fuel ih => mvcgen [skipBlank, ih] with grind

@[spec] theorem skipMark_spec (x : Lexer) :
    ⦃⌜True⌝⦄ x.skipMark ⦃Intact x.cursor.broken fun r => r.cursor.broken⦄ := by
  mvcgen [skipMark] with grind

@[spec] theorem toToken_spec (x : Lexer) :
    ⦃⌜True⌝⦄ x.toToken ⦃Intact x.cursor.broken fun r => r.cursor.broken⦄ := by
  mvcgen [toToken] with grind

@[spec] theorem dropStale_spec (x : Lexer) :
    ⦃⌜True⌝⦄ x.dropStale ⦃Intact x.cursor.broken fun r => r.cursor.broken⦄ := by
  mvcgen [dropStale] with grind

@[spec] theorem dropKey_spec (x : Lexer) :
    ⦃⌜True⌝⦄ x.dropKey ⦃Intact x.cursor.broken fun r => r.cursor.broken⦄ := by
  mvcgen [dropKey] with grind

@[spec] theorem saveKey_spec (x : Lexer) :
    ⦃⌜True⌝⦄ x.saveKey ⦃Intact x.cursor.broken fun r => r.cursor.broken⦄ := by
  mvcgen [saveKey]

@[spec] theorem fetchEnd_spec (x : Lexer) :
    ⦃⌜True⌝⦄ x.fetchEnd ⦃Intact x.cursor.broken fun r => r.cursor.broken⦄ := by
  mvcgen [fetchEnd] with grind

@[spec] theorem fetchDirective_spec (x : Lexer) :
    ⦃⌜True⌝⦄ x.fetchDirective ⦃Intact x.cursor.broken fun r => r.cursor.broken⦄ := by
  mvcgen [fetchDirective] with grind

@[spec] theorem fetchSeparator_spec (token : Token) (x : Lexer) :
    ⦃⌜True⌝⦄ x.fetchSeparator token ⦃Intact x.cursor.broken fun r => r.cursor.broken⦄ := by
  mvcgen [fetchSeparator] with grind

@[spec] theorem fetchFlowStart_spec (token : Token) (x : Lexer) :
    ⦃⌜True⌝⦄ x.fetchFlowStart token ⦃Intact x.cursor.broken fun r => r.cursor.broken⦄ := by
  mvcgen [fetchFlowStart] with grind

@[spec] theorem fetchFlowEnd_spec (token : Token) (x : Lexer) :
    ⦃⌜True⌝⦄ x.fetchFlowEnd token ⦃Intact x.cursor.broken fun r => r.cursor.broken⦄ := by
  mvcgen [fetchFlowEnd] with grind

@[spec] theorem fetchFlowEntry_spec (x : Lexer) :
    ⦃⌜True⌝⦄ x.fetchFlowEntry ⦃Intact x.cursor.broken fun r => r.cursor.broken⦄ := by
  mvcgen [fetchFlowEntry] with grind

@[spec] theorem fetchBlockEntry_spec (x : Lexer) :
    ⦃⌜True⌝⦄ x.fetchBlockEntry ⦃Intact x.cursor.broken fun r => r.cursor.broken⦄ := by
  mvcgen [fetchBlockEntry] with grind

@[spec] theorem fetchKey_spec (x : Lexer) :
    ⦃⌜True⌝⦄ x.fetchKey ⦃Intact x.cursor.broken fun r => r.cursor.broken⦄ := by
  mvcgen [fetchKey] with grind

@[spec] theorem fetchValue_spec (x : Lexer) :
    ⦃⌜True⌝⦄ x.fetchValue ⦃Intact x.cursor.broken fun r => r.cursor.broken⦄ := by
  mvcgen [fetchValue] with grind

@[spec] theorem fetchName_spec (token : Text → Token) (x : Lexer) :
    ⦃⌜True⌝⦄ x.fetchName token ⦃Intact x.cursor.broken fun r => r.cursor.broken⦄ := by
  mvcgen [fetchName] with grind

@[spec] theorem fetchTag_spec (x : Lexer) :
    ⦃⌜True⌝⦄ x.fetchTag ⦃Intact x.cursor.broken fun r => r.cursor.broken⦄ := by
  mvcgen [fetchTag] with grind

@[spec] theorem fetchBlockScalar_spec (folded : Bool) (x : Lexer) :
    ⦃⌜True⌝⦄ x.fetchBlockScalar folded ⦃Intact x.cursor.broken fun r => r.cursor.broken⦄ := by
  mvcgen [fetchBlockScalar] with grind

@[spec] theorem fetchQuoted_spec (double : Bool) (x : Lexer) :
    ⦃⌜True⌝⦄ x.fetchQuoted double ⦃Intact x.cursor.broken fun r => r.cursor.broken⦄ := by
  mvcgen [fetchQuoted] with grind

@[spec] theorem fetchPlain_spec (x : Lexer) :
    ⦃⌜True⌝⦄ x.fetchPlain ⦃Intact x.cursor.broken fun r => r.cursor.broken⦄ := by
  mvcgen [fetchPlain] with grind

@[spec] theorem fetchMark_spec (p : CodePoint) (x : Lexer) :
    ⦃⌜True⌝⦄ x.fetchMark p ⦃Intact x.cursor.broken fun r => r.cursor.broken⦄ := by
  mvcgen [fetchMark] with grind

@[spec] theorem fetchOther_spec (p : CodePoint) (x : Lexer) :
    ⦃⌜True⌝⦄ x.fetchOther p ⦃Intact x.cursor.broken fun r => r.cursor.broken⦄ := by
  mvcgen [fetchOther]

@[spec] theorem atLineMark_spec (p mark : CodePoint) (x : Lexer) :
    ⦃⌜True⌝⦄ x.atLineMark p mark ⦃Intact x.cursor.broken fun _ => x.cursor.broken⦄ := by
  mvcgen [atLineMark]

@[spec] theorem fetchAt_spec (p : CodePoint) (x : Lexer) :
    ⦃⌜True⌝⦄ x.fetchAt p ⦃Intact x.cursor.broken fun r => r.cursor.broken⦄ := by
  mvcgen [fetchAt]

@[spec] theorem fetch_spec (x : Lexer) :
    ⦃⌜True⌝⦄ x.fetch ⦃Intact x.cursor.broken fun r => r.2.cursor.broken⦄ := by
  mvcgen [fetch] with grind

/-- A scan that breaks off does so with the error behind the text, or one that is not about bytes. -/
theorem error_of_run {fuel : Nat} {x : Lexer} {e : Error} (h : (x.run fuel).error? = some e) :
    e.IsFrom x.cursor.broken := by
  induction fuel generalizing x with
  | zero => cases h
  | succ fuel ih =>
    obtain ⟨hfresh, hstale⟩ := Intact.outcomes (dropStale_spec x)
    rw [run] at h
    cases hdrop : x.dropStale with
    | error e' =>
      rw [hdrop] at h
      cases h
      exact hstale _ hdrop
    | ok y =>
      rw [hdrop] at h
      obtain ⟨hnext, herror⟩ := Intact.outcomes (fetch_spec y)
      rw [← hfresh y hdrop]
      cases hfetch : y.fetch with
      | error e' =>
        simp only [hfetch] at h
        cases h
        exact herror _ hfetch
      | ok r =>
        obtain ⟨more, z⟩ := r
        simp only [hfetch] at h
        cases more with
        | false => cases h
        | true => exact hnext _ hfetch ▸ ih h

end Lexer

/-- **A scan meets errors about bytes only behind the text of its source.** -/
theorem error_of_scan {s : Source} {e : Error} (h : (scan s).error? = some e) : e.IsFrom s.broken :=
  Lexer.error_of_run h

end Token

end MonitorIntake.Yaml
