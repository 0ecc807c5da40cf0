import MonitorIntake.Yaml.Node
import MonitorIntake.Yaml.Tag.Implicit
import MonitorIntake.Yaml.Token.Stream

/-!
# Nodes of tokens

`Document.compose` makes a document of the tokens of a text: directives, one root node, and nothing after it. A node has
an anchor and a tag in either order; where nothing is written for a key, a value or an entry, it is the empty plain
scalar. An anchor is known from the beginning of its node on, so a node can hold aliases of itself.
-/

namespace MonitorIntake.Yaml

/-- The deepest nesting of nodes in a document. -/
def depthLimit : Nat := 480

/-- The tokens that are left, and what has been declared before them. -/
structure Composer where
  stream : TokenStream
  /-- What the tag handles stand for. -/
  handles : List (Text × Text)
  /-- The anchors so far. -/
  names : List Text
  /-- The finished nodes with anchors, last first. -/
  anchors : Anchors

namespace Composer

/-- The next token. -/
def peek (c : Composer) : Except Error Token :=
  match c.stream.tokens with
  | t :: _ => .ok t
  | [] => .error (c.stream.error?.getD (.malformed .contentMissing))

/-- After the next token. -/
def drop (c : Composer) : Composer := { c with stream := { c.stream with tokens := c.stream.tokens.tail } }

/-- The anchor and the tag before a node. -/
structure Properties where
  anchor : Option Text
  tag : Option Text

/-- The tag that a handle and a suffix stand for. -/
def tagText (c : Composer) (handle : Option Text) (suffix : Text) : Except Error Text :=
  match handle with
  | none => .ok suffix
  | some h =>
    match c.handles.lookup h with
    | some start => .ok (start ++ suffix)
    | none => .error (.malformed (.handleUndefined h))

/-- The anchor at the front, if there is one. -/
def anchor? (c : Composer) : Except Error (Option Text × Composer) := do
  match ← c.peek with
  | .anchor name => return (some name, c.drop)
  | _ => return (none, c)

/-- The tag at the front, if there is one. -/
def tag? (c : Composer) : Except Error (Option (Option Text × Text) × Composer) := do
  match ← c.peek with
  | .tag handle suffix => return (some (handle, suffix), c.drop)
  | _ => return (none, c)

/-- The properties at the front. -/
def properties (c : Composer) : Except Error (Properties × Composer) := do
  let (early, c) ← c.anchor?
  let (tag, c) ← c.tag?
  let (anchor, c) ← if early.isNone && tag.isSome then c.anchor? else pure (early, c)
  match tag with
  | none => return (⟨anchor, none⟩, c)
  | some (handle, suffix) => return (⟨anchor, some (← c.tagText handle suffix)⟩, c)

/-- The properties with the anchor declared, which has not been declared before. -/
def declare (p : Properties) (c : Composer) : Except Error Composer :=
  match p.anchor with
  | none => .ok c
  | some name =>
    if c.names.contains name then .error (.malformed (.anchorTwice name))
    else .ok { c with names := name :: c.names }

/-- A finished node kept, if it has an anchor. -/
def keep (n : Node) (c : Composer) : Composer :=
  match n.anchor? with
  | some name => { c with anchors := (name, n) :: c.anchors }
  | none => c

/-- The tag is missing or leaves the type open. -/
def Properties.isOpen (p : Properties) : Bool :=
  match p.tag with
  | none => true
  | some t => t == "!".toText

/-- The tag of a collection. -/
def Properties.collection (p : Properties) (default : Tag) : Tag :=
  if p.isOpen then default else Tag.ofUri (p.tag.getD [])

/-- The tag of a scalar; a plain one without a tag has the tag of its pattern. -/
def Properties.scalar (p : Properties) (plain : Bool) (t : Text) : Tag :=
  match p.tag with
  | none => if plain then Tag.implicit t else .text
  | some uri => if uri = "!".toText then Tag.implicit t else Tag.ofUri uri

/-- The node where nothing is written. -/
def emptyNode : Node := .scalar ⟨none, 0⟩ .null []

/-- The label of a node after whose last token the composer stands; the tokens that are left number the nodes. -/
def label (p : Properties) (c : Composer) : Label := ⟨p.anchor, c.stream.tokens.length⟩

/-- A scalar node. -/
def scalarNode (p : Properties) (plain : Bool) (t : Text) (c : Composer) : Except Error (Node × Composer) := do
  let c ← c.declare p
  let n := Node.scalar (c.label p) (p.scalar plain t) t
  return (n, c.keep n)

/-- A sequence node, after its last token. -/
def sequenceNode (p : Properties) (items : List Node) (c : Composer) : Node × Composer :=
  let n := Node.sequence (c.label p) (p.collection .sequence) items
  (n, c.keep n)

/-- A mapping node, after its last token. -/
def mappingNode (p : Properties) (entries : List (Node × Node)) (c : Composer) : Node × Composer :=
  let n := Node.mapping (c.label p) (p.collection .mapping) entries
  (n, c.keep n)

/-- The node of an alias. -/
def aliasNode (name : Text) (c : Composer) : Except Error (Node × Composer) :=
  if c.names.contains name then .ok (.reference name, c) else .error (.malformed (.aliasUndefined name))

/-- What may stand in the place of a node: blocks, and a sequence that is not indented. -/
structure Place where
  block : Bool
  indentless : Bool

/-- Inside flow collections. -/
def Place.flow : Place := ⟨false, false⟩

/-- Inside blocks. -/
def Place.inBlock : Place := ⟨true, false⟩

/-- A key or a value of a block mapping. -/
def Place.ofMapping : Place := ⟨true, true⟩

/-- The token ends an entry of a block sequence without a node. -/
def endsEntry : Token → Bool
  | .blockEntry | .blockEnd => true
  | _ => false

/-- The token ends an entry of a sequence that is not indented, without a node. -/
def endsIndentless : Token → Bool
  | .blockEntry | .key | .value | .blockEnd => true
  | _ => false

/-- The token ends a key or a value of a block mapping without a node. -/
def endsPart : Token → Bool
  | .key | .value | .blockEnd => true
  | _ => false

/-- The token ends a key of a flow collection without a node. -/
def endsFlowKey (close : Token) (t : Token) : Bool := t = .value || t = .flowEntry || t = close

/-- The token ends a value of a flow collection without a node. -/
def endsFlowValue (close : Token) (t : Token) : Bool := t = .flowEntry || t = close

mutual

/-- The node at the front. `depth` is the number of collections around it. -/
def node : (fuel : Nat) → (depth : Nat) → Place → Composer → Except Error (Node × Composer)
  | 0, _, _, _ => .error (.malformed .contentMissing)
  | fuel + 1, depth, place, c => do
    if depthLimit ≤ depth then throw .tooDeep
    match ← c.peek with
    | .reference name => c.drop.aliasNode name
    | _ =>
      let (p, c) ← c.properties
      content fuel depth place p c

/-- The content of a node after its properties. -/
def content : (fuel : Nat) → (depth : Nat) → Place → Properties → Composer → Except Error (Node × Composer)
  | 0, _, _, _, _ => .error (.malformed .contentMissing)
  | fuel + 1, depth, place, p, c => do
    match ← c.peek with
    | .scalar t plain => c.drop.scalarNode p plain t
    | .flowSequenceStart => flowSequence fuel depth true p [] (← c.drop.declare p)
    | .flowMappingStart => flowMapping fuel depth true p [] (← c.drop.declare p)
    | .blockEntry =>
      if place.indentless then indentlessSequence fuel depth p [] (← c.declare p) else unwritten p c
    | .blockSequenceStart =>
      if place.block then blockSequence fuel depth p [] (← c.drop.declare p) else unwritten p c
    | .blockMappingStart =>
      if place.block then blockMapping fuel depth p [] (← c.drop.declare p) else unwritten p c
    | _ => unwritten p c

/-- A node of which only properties are written. -/
def unwritten (p : Properties) (c : Composer) : Except Error (Node × Composer) :=
  if p.anchor.isSome || p.tag.isSome then c.scalarNode p true []
  else .error (.malformed .contentMissing)

/-- The node at the front, or the empty one before a token that ends it. -/
def nodeOrEmpty : (fuel : Nat) → (depth : Nat) → Place → (ends : Token → Bool) → Composer →
    Except Error (Node × Composer)
  | 0, _, _, _, _ => .error (.malformed .contentMissing)
  | fuel + 1, depth, place, ends, c => do
    if ends (← c.peek) then
      if depthLimit ≤ depth then throw .tooDeep
      return (emptyNode, c)
    node fuel depth place c

/-- The value at the front, after its mark; without the mark it is the empty node. -/
def valueOrEmpty : (fuel : Nat) → (depth : Nat) → Place → (ends : Token → Bool) → Composer →
    Except Error (Node × Composer)
  | 0, _, _, _, _ => .error (.malformed .contentMissing)
  | fuel + 1, depth, place, ends, c => do
    match ← c.peek with
    | .value => nodeOrEmpty fuel depth place ends c.drop
    | _ =>
      if depthLimit ≤ depth then throw .tooDeep
      return (emptyNode, c)

/-- The rest of a block sequence; `done` are its items so far, last first. -/
def blockSequence : (fuel : Nat) → (depth : Nat) → Properties → (done : List Node) → Composer →
    Except Error (Node × Composer)
  | 0, _, _, _, _ => .error (.malformed .blockEndMissing)
  | fuel + 1, depth, p, done, c => do
    match ← c.peek with
    | .blockEntry =>
      let (n, c) ← nodeOrEmpty fuel (depth + 1) .inBlock endsEntry c.drop
      blockSequence fuel depth p (n :: done) c
    | .blockEnd => return c.drop.sequenceNode p done.reverse
    | _ => throw (.malformed .blockEndMissing)

/-- The rest of a block sequence that is not indented. -/
def indentlessSequence : (fuel : Nat) → (depth : Nat) → Properties → (done : List Node) → Composer →
    Except Error (Node × Composer)
  | 0, _, _, _, _ => .error (.malformed .blockEndMissing)
  | fuel + 1, depth, p, done, c => do
    match ← c.peek with
    | .blockEntry =>
      let (n, c) ← nodeOrEmpty fuel (depth + 1) .inBlock endsIndentless c.drop
      indentlessSequence fuel depth p (n :: done) c
    | _ => return c.sequenceNode p done.reverse

/-- The rest of a block mapping; `done` are its entries so far, last first. -/
def blockMapping : (fuel : Nat) → (depth : Nat) → Properties → (done : List (Node × Node)) → Composer →
    Except Error (Node × Composer)
  | 0, _, _, _, _ => .error (.malformed .blockEndMissing)
  | fuel + 1, depth, p, done, c => do
    match ← c.peek with
    | .key =>
      let (k, c) ← nodeOrEmpty fuel (depth + 1) .ofMapping endsPart c.drop
      let (v, c) ← valueOrEmpty fuel (depth + 1) .ofMapping endsPart c
      blockMapping fuel depth p ((k, v) :: done) c
    | .blockEnd => return c.drop.mappingNode p done.reverse
    | _ => throw (.malformed .blockEndMissing)

/-- The rest of a flow sequence; `first` tells that no item has been read. A key begins a mapping of one entry. -/
def flowSequence : (fuel : Nat) → (depth : Nat) → (first : Bool) → Properties → (done : List Node) → Composer →
    Except Error (Node × Composer)
  | 0, _, _, _, _, _ => .error (.malformed .flowCommaMissing)
  | fuel + 1, depth, first, p, done, c => do
    match ← c.peek with
    | .flowSequenceEnd => return c.drop.sequenceNode p done.reverse
    | t =>
      let c ← if first then pure c else if t = .flowEntry then pure c.drop else throw (.malformed .flowCommaMissing)
      match ← c.peek with
      | .flowSequenceEnd => return c.drop.sequenceNode p done.reverse
      | .key =>
        if depthLimit ≤ depth + 1 then throw .tooDeep
        let (k, c) ← nodeOrEmpty fuel (depth + 2) .flow (endsFlowKey .flowSequenceEnd) c.drop
        let (v, c) ← valueOrEmpty fuel (depth + 2) .flow (endsFlowValue .flowSequenceEnd) c
        flowSequence fuel depth false p (.mapping ⟨none, 0⟩ .mapping [(k, v)] :: done) c
      | _ =>
        let (n, c) ← node fuel (depth + 1) .flow c
        flowSequence fuel depth false p (n :: done) c

/-- The rest of a flow mapping; a node that no mark makes a key has the empty node as its value. -/
def flowMapping : (fuel : Nat) → (depth : Nat) → (first : Bool) → Properties → (done : List (Node × Node)) →
    Composer → Except Error (Node × Composer)
  | 0, _, _, _, _, _ => .error (.malformed .flowCommaMissing)
  | fuel + 1, depth, first, p, done, c => do
    match ← c.peek with
    | .flowMappingEnd => return c.drop.mappingNode p done.reverse
    | t =>
      let c ← if first then pure c else if t = .flowEntry then pure c.drop else throw (.malformed .flowCommaMissing)
      match ← c.peek with
      | .flowMappingEnd => return c.drop.mappingNode p done.reverse
      | .key =>
        let (k, c) ← nodeOrEmpty fuel (depth + 1) .flow (endsFlowKey .flowMappingEnd) c.drop
        let (v, c) ← valueOrEmpty fuel (depth + 1) .flow (endsFlowValue .flowMappingEnd) c
        flowMapping fuel depth false p ((k, v) :: done) c
      | _ =>
        let (k, c) ← node fuel (depth + 1) .flow c
        flowMapping fuel depth false p ((k, emptyNode) :: done) c

end

/-! ## Documents -/

/-- The directives at the front: whether one gives the version, and the tag handles, the last declared first. -/
def directives : (fuel : Nat) → (version : Bool) → (declared : List (Text × Text)) → Composer →
    Except Error (List (Text × Text) × Composer)
  | 0, _, declared, c => .ok (declared, c)
  | fuel + 1, version, declared, c => do
    match ← c.peek with
    | .directive (.version major _) =>
      if version then throw (.malformed .directiveTwice)
      if major ≠ 1 then throw (.malformed .versionUnsupported)
      directives fuel true declared c.drop
    | .directive (.tagHandle handle uri) =>
      if (declared.lookup handle).isSome then throw (.malformed .handleTwice)
      directives fuel version ((handle, uri) :: declared) c.drop
    | .directive .other => directives fuel version declared c.drop
    | _ => return (declared, c)

/-- After the marks of ends of documents. -/
def dropEnds : (fuel : Nat) → Composer → Except Error Composer
  | 0, c => .ok c
  | fuel + 1, c => do
    match ← c.peek with
    | .documentEnd => dropEnds fuel c.drop
    | _ => return c

/-- After the beginning of a document that is marked, with its directives. -/
def documentStart (fuel : Nat) (c : Composer) : Except Error Composer := do
  let (declared, c) ← directives fuel false [] c
  match ← c.peek with
  | .documentStart => return { c.drop with handles := declared ++ Tag.standardHandles }
  | _ => throw (.malformed .documentStartMissing)

/-- The root of a document whose beginning is marked; it may be empty. -/
def markedRoot (fuel : Nat) (c : Composer) : Except Error (Node × Composer) := do
  let c ← documentStart fuel c
  match ← c.peek with
  | .directive _ | .documentStart | .documentEnd | .streamEnd => return (emptyNode, c)
  | _ => node fuel 0 .inBlock c

/-- Nothing but marks of ends of documents is left. -/
def finish (fuel : Nat) (c : Composer) : Except Error Unit := do
  let c ← dropEnds fuel c
  match ← c.peek with
  | .streamEnd => return ()
  | _ =>
    let _ ← documentStart fuel c
    throw (.malformed .severalDocuments)

/-- The one document of all tokens. -/
def document (fuel : Nat) (c : Composer) : Except Error Document := do
  match ← c.peek with
  | .streamEnd => return ⟨none, []⟩
  | t =>
    let (root, c) ← match t with
      | .directive _ | .documentStart => markedRoot fuel c
      | _ => node fuel 0 .inBlock c
    finish fuel c
    return ⟨some root, c.anchors⟩

end Composer

/-- The document of a source. -/
def Document.compose (s : Source) : Except Error Document :=
  let stream := Token.scan s
  Composer.document (6 * stream.tokens.length + 6) ⟨stream, Tag.standardHandles, [], []⟩

end MonitorIntake.Yaml
