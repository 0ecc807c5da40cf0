import MonitorIntake.Proofs.Yaml.Scan
import MonitorIntake.Yaml.Value

/-!
# Errors of a reader

Whoever reads a document meets the error at which the scan broke off only behind the tokens, and makes no errors about
bytes; so **the errors of a reader are about bytes only if the source is broken off by them** (`error_of_read`).
-/

set_option mvcgen.warning false

open Std.Do

namespace MonitorIntake.Yaml

namespace Composer

@[simp, grind =] theorem stream_drop (c : Composer) : c.drop.stream.error? = c.stream.error? := rfl

@[simp, grind =] theorem stream_keep (n : Node) (c : Composer) : (c.keep n).stream = c.stream := by
  unfold keep
  split <;> rfl

@[spec] theorem peek_spec (c : Composer) :
    ⦃⌜True⌝⦄ c.peek ⦃Intact c.stream.error? fun _ => c.stream.error?⦄ := by
  mvcgen [peek]
  next h =>
  cases hbroken : c.stream.error? with
  | none => exact .inr nofun
  | some e => exact .inl rfl

@[spec] theorem tagText_spec (c : Composer) (handle : Option Text) (suffix : Text) :
    ⦃⌜True⌝⦄ c.tagText handle suffix ⦃Intact c.stream.error? fun _ => c.stream.error?⦄ := by
  mvcgen [tagText] with grind

@[spec] theorem anchor?_spec (c : Composer) :
    ⦃⌜True⌝⦄ c.anchor? ⦃Intact c.stream.error? fun r => r.2.stream.error?⦄ := by
  mvcgen [anchor?]

@[spec] theorem tag?_spec (c : Composer) :
    ⦃⌜True⌝⦄ c.tag? ⦃Intact c.stream.error? fun r => r.2.stream.error?⦄ := by
  mvcgen [tag?]

@[spec] theorem properties_spec (c : Composer) :
    ⦃⌜True⌝⦄ c.properties ⦃Intact c.stream.error? fun r => r.2.stream.error?⦄ := by
  mvcgen [properties] with grind

@[spec] theorem declare_spec (p : Properties) (c : Composer) :
    ⦃⌜True⌝⦄ c.declare p ⦃Intact c.stream.error? fun r => r.stream.error?⦄ := by
  mvcgen [declare] with grind

@[spec] theorem scalarNode_spec (p : Properties) (plain : Bool) (t : Text) (c : Composer) :
    ⦃⌜True⌝⦄ c.scalarNode p plain t ⦃Intact c.stream.error? fun r => r.2.stream.error?⦄ := by
  mvcgen [scalarNode] with grind

@[simp, grind =] theorem stream_sequenceNode (p : Properties) (items : List Node) (c : Composer) :
    (c.sequenceNode p items).2.stream = c.stream := stream_keep _ c

@[simp, grind =] theorem stream_mappingNode (p : Properties) (entries : List (Node × Node)) (c : Composer) :
    (c.mappingNode p entries).2.stream = c.stream := stream_keep _ c

@[spec] theorem aliasNode_spec (name : Text) (c : Composer) :
    ⦃⌜True⌝⦄ c.aliasNode name ⦃Intact c.stream.error? fun r => r.2.stream.error?⦄ := by
  mvcgen [aliasNode] with grind

@[spec] theorem unwritten_spec (p : Properties) (c : Composer) :
    ⦃⌜True⌝⦄ unwritten p c ⦃Intact c.stream.error? fun r => r.2.stream.error?⦄ := by
  mvcgen [unwritten] with grind

/-- What is said about a function that reads a node. -/
abbrev ReadsNode (c : Composer) (x : Except Error (Node × Composer)) : Prop :=
  ⦃⌜True⌝⦄ x ⦃Intact c.stream.error? fun r => r.2.stream.error?⦄

/-- What is said about all functions that read nodes with some fuel. -/
structure NodesIntact (fuel : Nat) : Prop where
  node : ∀ depth place c, ReadsNode c (node fuel depth place c)
  content : ∀ depth place p c, ReadsNode c (content fuel depth place p c)
  nodeOrEmpty : ∀ depth place ends c, ReadsNode c (nodeOrEmpty fuel depth place ends c)
  valueOrEmpty : ∀ depth place ends c, ReadsNode c (valueOrEmpty fuel depth place ends c)
  blockSequence : ∀ depth p done c, ReadsNode c (blockSequence fuel depth p done c)
  indentlessSequence : ∀ depth p done c, ReadsNode c (indentlessSequence fuel depth p done c)
  blockMapping : ∀ depth p done c, ReadsNode c (blockMapping fuel depth p done c)
  flowSequence : ∀ depth first p done c, ReadsNode c (flowSequence fuel depth first p done c)
  flowMapping : ∀ depth first p done c, ReadsNode c (flowMapping fuel depth first p done c)

theorem nodesIntact (fuel : Nat) : NodesIntact fuel := by
  induction fuel with
  | zero =>
    constructor <;> intros <;> mvcgen [node, content, nodeOrEmpty, valueOrEmpty, blockSequence, indentlessSequence,
      blockMapping, flowSequence, flowMapping] <;> grind
  | succ fuel ih =>
    obtain ⟨hnode, hcontent, hnodeOrEmpty, hvalueOrEmpty, hblockSequence, hindentless, hblockMapping, hflowSequence,
      hflowMapping⟩ := ih
    constructor <;> intros
    case node => mvcgen [node, hcontent] with grind
    case content =>
      mvcgen [content, hflowSequence, hflowMapping, hindentless, hblockSequence, hblockMapping] with grind
    case nodeOrEmpty => mvcgen [nodeOrEmpty, hnode] with grind
    case valueOrEmpty => mvcgen [valueOrEmpty, hnodeOrEmpty] with grind
    case blockSequence => mvcgen [blockSequence, hnodeOrEmpty, hblockSequence] with grind
    case indentlessSequence => mvcgen [indentlessSequence, hnodeOrEmpty, hindentless] with grind
    case blockMapping => mvcgen [blockMapping, hnodeOrEmpty, hvalueOrEmpty, hblockMapping] with grind
    case flowSequence => mvcgen [flowSequence, hnode, hnodeOrEmpty, hvalueOrEmpty, hflowSequence] with grind
    case flowMapping => mvcgen [flowMapping, hnode, hnodeOrEmpty, hvalueOrEmpty, hflowMapping] with grind

@[spec] theorem node_spec (fuel depth : Nat) (place : Place) (c : Composer) :
    ⦃⌜True⌝⦄ node fuel depth place c ⦃Intact c.stream.error? fun r => r.2.stream.error?⦄ :=
  (nodesIntact fuel).node depth place c

/-! ## Documents -/

@[spec] theorem directives_spec (fuel : Nat) (version : Bool) (declared : List (Text × Text)) (c : Composer) :
    ⦃⌜True⌝⦄ directives fuel version declared c ⦃Intact c.stream.error? fun r => r.2.stream.error?⦄ := by
  induction fuel generalizing version declared c with
  | zero => mvcgen [directives]
  | succ fuel ih => mvcgen [directives, ih] with grind

@[spec] theorem dropEnds_spec (fuel : Nat) (c : Composer) :
    ⦃⌜True⌝⦄ dropEnds fuel c ⦃Intact c.stream.error? fun r => r.stream.error?⦄ := by
  induction fuel generalizing c with
  | zero => mvcgen [dropEnds]
  | succ fuel ih => mvcgen [dropEnds, ih]

@[spec] theorem documentStart_spec (fuel : Nat) (c : Composer) :
    ⦃⌜True⌝⦄ documentStart fuel c ⦃Intact c.stream.error? fun r => r.stream.error?⦄ := by
  mvcgen [documentStart] with grind

@[spec] theorem markedRoot_spec (fuel : Nat) (c : Composer) :
    ⦃⌜True⌝⦄ markedRoot fuel c ⦃Intact c.stream.error? fun r => r.2.stream.error?⦄ := by
  mvcgen [markedRoot] with grind

@[spec] theorem finish_spec (fuel : Nat) (c : Composer) :
    ⦃⌜True⌝⦄ finish fuel c ⦃Intact c.stream.error? fun _ => c.stream.error?⦄ := by
  mvcgen [finish] with grind

@[spec] theorem document_spec (fuel : Nat) (c : Composer) :
    ⦃⌜True⌝⦄ document fuel c ⦃Intact c.stream.error? fun _ => c.stream.error?⦄ := by
  mvcgen [document] with grind

end Composer

theorem error_of_compose {s : Source} {e : Error} (h : Document.compose s = .error e) : e.IsFrom s.broken := by
  obtain ⟨-, herror⟩ := Intact.outcomes (Composer.document_spec _ ⟨Token.scan s, Tag.standardHandles, [], []⟩)
  rcases herror e h with hscan | hother
  · exact Token.error_of_scan hscan
  · exact .inr hother

/-! ## Values -/

/-- The postcondition of what is done without a text: no error is about bytes. -/
abbrev Readable {α : Type} : PostCond α (.except Error .pure) := Intact none fun _ => none

namespace Node

@[spec] theorem text_spec (anchors : Anchors) (fuel : Nat) (n : Node) :
    ⦃⌜True⌝⦄ n.text anchors fuel ⦃Readable⦄ := by
  induction fuel generalizing n with
  | zero =>
    mvcgen [text]
    grind
  | succ fuel ih => mvcgen [text, ih] with grind

@[spec] theorem lift_spec {α : Type} (x : Except ScalarFault α) : ⦃⌜True⌝⦄ lift x ⦃Readable⦄ := by
  cases x with
  | error f =>
    mvcgen [lift, Except.mapError]
    grind
  | ok a => mvcgen [lift, Except.mapError]

@[spec] theorem scalar?_spec (anchors : Anchors) (n : Node) : ⦃⌜True⌝⦄ n.scalar? anchors ⦃Readable⦄ := by
  mvcgen [scalar?] with grind

/-- What is said about all functions that replace merge keys, with some fuel. -/
structure MergesReadable (fuel : Nat) : Prop where
  flattenFrom : ∀ i merged n anchors, ⦃⌜True⌝⦄ flattenFrom fuel i merged n anchors ⦃Readable⦄
  mergedEntries : ∀ n anchors, ⦃⌜True⌝⦄ mergedEntries fuel n anchors ⦃Readable⦄
  listedEntries : ∀ merged items anchors, ⦃⌜True⌝⦄ listedEntries fuel merged items anchors ⦃Readable⦄

theorem mergesReadable (fuel : Nat) : MergesReadable fuel := by
  induction fuel with
  | zero => constructor <;> intros <;> mvcgen [flattenFrom, mergedEntries, listedEntries]
  | succ fuel ih =>
    obtain ⟨hflatten, hmerged, hlisted⟩ := ih
    constructor
    case flattenFrom =>
      intros
      mvcgen [flattenFrom, hflatten, hmerged]
    case mergedEntries =>
      intros
      mvcgen [mergedEntries, hflatten, hlisted] with grind
    case listedEntries =>
      rintro merged (_ | ⟨item, rest⟩) anchors
      · mvcgen [listedEntries]
      · mvcgen [listedEntries, hflatten, hlisted] with grind

@[spec] theorem flatten_spec (size : Nat) (n : Node) (anchors : Anchors) :
    ⦃⌜True⌝⦄ n.flatten size anchors ⦃Readable⦄ :=
  (mergesReadable _).flattenFrom 0 [] n anchors

namespace Examined

@[spec] theorem meet_spec (n : Node) (x : Examined) : ⦃⌜True⌝⦄ x.meet n ⦃Readable⦄ := by
  mvcgen [meet]

@[spec] theorem meetEntry_spec (key v : Node) (x : Examined) : ⦃⌜True⌝⦄ x.meetEntry key v ⦃Readable⦄ := by
  mvcgen [meetEntry] with grind

@[spec] theorem meetPair_spec (item : Node) (x : Examined) : ⦃⌜True⌝⦄ x.meetPair item ⦃Readable⦄ := by
  mvcgen [meetPair] with grind

@[spec] theorem meetContent_spec (size : Nat) (n : Node) (x : Examined) :
    ⦃⌜True⌝⦄ x.meetContent size n ⦃Readable⦄ := by
  -- The cases are taken before the triples, because tag and node are looked at together.
  unfold meetContent
  dsimp only
  generalize n.meant x.anchors = m
  generalize m.tag = tag
  split
  · mvcgen invariants
    · Readable
    with grind
  · mvcgen with grind
  · mvcgen invariants
    · Readable
    with grind
  · mvcgen invariants
    · Readable
    with grind
  · mvcgen with grind
  · mvcgen with grind
  · mvcgen invariants
    · Readable
    with grind
  · mvcgen with grind

end Examined

@[spec] theorem examine_spec (size levels : Nat) (x : Examined) : ⦃⌜True⌝⦄ examine size levels x ⦃Readable⦄ := by
  induction levels generalizing x with
  | zero => mvcgen [examine]
  | succ levels ih =>
    mvcgen [examine, ih] invariants
    · Readable
    with grind

end Node

@[spec] theorem Document.value_spec (depth : Nat) (d : Document) : ⦃⌜True⌝⦄ d.value depth ⦃Readable⦄ := by
  mvcgen [Document.value]

/-- **A reader meets errors about bytes only behind the text of the source.** -/
theorem error_of_read {depth : Nat} {s : Source} {e : Error} (h : read depth s = .error e) : e.IsFrom s.broken := by
  rw [read] at h
  cases hcompose : Document.compose s with
  | error e' =>
    rw [hcompose] at h
    cases h
    exact error_of_compose hcompose
  | ok d =>
    rw [hcompose] at h
    rcases (Intact.outcomes (Document.value_spec depth d)).2 e h with hnone | hother
    · cases hnone
    · exact .inr hother

end MonitorIntake.Yaml
