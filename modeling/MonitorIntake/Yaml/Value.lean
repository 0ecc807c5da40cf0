import MonitorIntake.Yaml.Node.Compose
import MonitorIntake.Yaml.Scalar.Binary
import MonitorIntake.Yaml.Scalar.Number

/-!
# Values of YAML documents

`Yaml.read` gives the value of a source. First every node of the document is examined, collections level by level from
the root on (`Node.examine`), and the first node that has no value decides the error; then the value is read off the
nodes (`Node.value`), as far down as is asked for. A merge key stands for the entries of the mappings that it names,
in front of those of its own mapping (`flatten`); of equal keys the last gives the value.
-/

namespace MonitorIntake.Yaml

/-- A value, as far as it is read. -/
inductive Value
  | scalar (s : Scalar)
  | mapping (entries : List (Scalar × Value))
  /-- A sequence or a set. -/
  | collection (isVoid : Bool)
  deriving Inhabited

namespace Value

/-- The value counts for nothing. -/
def isVoid : Value → Bool
  | scalar s => s.isVoid
  | mapping entries => entries.isEmpty
  | collection isVoid => isVoid

/-- The entries with a value given to a key: in the place of an equal key, or at the end. -/
def putEntry (key : Scalar) (v : Value) : List (Scalar × Value) → List (Scalar × Value)
  | [] => [(key, v)]
  | (k, w) :: rest => if k.same key then (k, v) :: rest else (k, w) :: putEntry key v rest

end Value

namespace Node

mutual

/-- The number of nodes in a node. -/
def size : Node → Nat
  | scalar _ _ _ => 1
  | reference _ => 1
  | sequence _ _ items => itemsSize items + 1
  | mapping _ _ entries => entriesSize entries + 1

/-- The number of nodes in the items of a sequence. -/
def itemsSize : List Node → Nat
  | [] => 0
  | n :: rest => n.size + itemsSize rest

/-- The number of nodes in the entries of a mapping. -/
def entriesSize : List (Node × Node) → Nat
  | [] => 0
  | (k, v) :: rest => k.size + v.size + entriesSize rest

end

/-! ## Scalars -/

/-- The deepest chain of value keys through which the text of a scalar is looked for. -/
def chainLimit : Nat := 960

/-- The text of a node that stands for a scalar; a mapping has that of its value key. -/
def text (anchors : Anchors) : (fuel : Nat) → Node → Except Error Text
  | 0, _ => .error .tooDeep
  | fuel + 1, n =>
    match n.meant anchors with
    | scalar _ _ t => .ok t
    | mapping _ _ entries =>
      match entries.find? fun e => (e.1.meant anchors).tag == .value with
      | some (_, v) => v.text anchors fuel
      | none => .error (.malformed .scalarMissing)
    | _ => .error (.malformed .scalarMissing)

/-- The timestamp of a text. -/
def readTimestamp (t : Text) : Except ScalarFault Timestamp :=
  let body := if t.getLast? = some ('\n' : CodePoint) then t.dropLast else t
  match Timestamp.read? body with
  | none => .error .timestamp
  | some s =>
    match s.fault? with
    | some f => .error f
    | none => .ok s

/-- The fault of a scalar as an error. -/
def lift {α : Type} (e : Except ScalarFault α) : Except Error α := e.mapError .scalar

/-- The node is a mapping. -/
def isMapping : Node → Bool
  | mapping _ _ _ => true
  | _ => false

/-- The value of a node with the tag of a scalar; a node with the tag of a collection has none. -/
def scalar? (anchors : Anchors) (n : Node) : Except Error (Option Scalar) := do
  let n := n.meant anchors
  let text := n.text anchors chainLimit
  match n.tag with
  | .null => return (fun _ => some Scalar.null) (← text)
  | .truth => return some (.truth (← lift (truthOfText (← text))))
  | .integer => return some (.integer (← lift (integerOfText (← text))))
  | .number =>
    let t ← text
    return some (.ofDouble (if isNotNumberWord t then none else some n.number) (← lift (numberOfText t)))
  | .text => return some (.text (← text))
  | .binary =>
    match Base64.decode? (← text) with
    | some bytes => return some (.bytes bytes)
    | none => throw (.malformed .base64)
  | .timestamp =>
    let t ← text
    if n.isMapping then throw (.scalar .timestampMapping)
    return some (.timestamp (← lift (readTimestamp t)))
  | .ordered | .pairs | .set | .sequence | .mapping => return none
  | .merge => throw (.malformed (.tagUnknown (Tag.standardStart ++ "merge".toText)))
  | .value => throw (.malformed (.tagUnknown (Tag.standardStart ++ "value".toText)))
  | .other uri => throw (.malformed (.tagUnknown uri))

/-! ## Merge keys -/

/-- The entries of a mapping. -/
def entries : Node → List (Node × Node)
  | mapping _ _ entries => entries
  | _ => []

/-- The mapping with other entries. -/
def withEntries (es : List (Node × Node)) : Node → Node
  | mapping a tag _ => mapping a tag es
  | n => n

/-- The node with the tag of text. -/
def asText : Node → Node
  | scalar a _ t => scalar a .text t
  | sequence a _ items => sequence a .text items
  | mapping a _ es => mapping a .text es
  | reference name => reference name

/-- No key is a merge key or a value key. -/
def isFlat (anchors : Anchors) (n : Node) : Bool :=
  n.entries.all fun e => (e.1.meant anchors).tag != .merge && (e.1.meant anchors).tag != .value

/-- The anchors when a node has been changed. -/
def update (n : Node) (anchors : Anchors) : Anchors :=
  match n.anchor? with
  | some name => anchors.replace name n
  | none => anchors

mutual

/-- A mapping with the entries that its merge keys stand for, and the anchors when it has them; a value key becomes
text. `i` is the number of entries already looked at, and `merged` are those to be put in front. -/
def flattenFrom : (fuel : Nat) → (i : Nat) → (merged : List (Node × Node)) → Node → Anchors →
    Except Error (Node × Anchors)
  | 0, _, _, n, anchors => .ok (n, anchors)
  | fuel + 1, i, merged, n, anchors =>
    let n := n.meant anchors
    if n.isFlat anchors && merged.isEmpty then .ok (n, anchors)
    else match n.entries[i]? with
    | none =>
      let n := n.withEntries (merged ++ n.entries)
      .ok (n, n.update anchors)
    | some (key, v) =>
      let key := key.meant anchors
      match key.tag with
      | .merge => do
        let n := n.withEntries (n.entries.eraseIdx i)
        let anchors := n.update anchors
        let (more, anchors) ← mergedEntries fuel (v.meant anchors) anchors
        flattenFrom fuel i (merged ++ more) n anchors
      | .value =>
        let n := n.withEntries (n.entries.set i (key.asText, v))
        flattenFrom fuel (i + 1) merged n (n.update (key.asText.update anchors))
      | _ => flattenFrom fuel (i + 1) merged n anchors

/-- The entries of what a merge key names: a mapping, or mappings of which the last come first. -/
def mergedEntries : (fuel : Nat) → Node → Anchors → Except Error (List (Node × Node) × Anchors)
  | 0, _, anchors => .ok ([], anchors)
  | fuel + 1, n, anchors =>
    match n with
    | mapping _ _ _ => do
      let (n, anchors) ← flattenFrom fuel 0 [] n anchors
      return (n.entries, anchors)
    | sequence _ _ items => listedEntries fuel [] items anchors
    | _ => .error (.malformed .mergeTarget)

/-- The entries of listed mappings, in front of those of the mappings before them. -/
def listedEntries : (fuel : Nat) → (merged : List (Node × Node)) → List Node → Anchors →
    Except Error (List (Node × Node) × Anchors)
  | 0, merged, _, anchors => .ok (merged, anchors)
  | _ + 1, merged, [], anchors => .ok (merged, anchors)
  | fuel + 1, merged, item :: rest, anchors =>
    match item.meant anchors with
    | mapping a tag es => do
      let (n, anchors) ← flattenFrom fuel 0 [] (mapping a tag es) anchors
      listedEntries fuel (n.entries ++ merged) rest anchors
    | _ => .error (.malformed .mergeTarget)

end

/-- A mapping with the entries that its merge keys stand for, and the anchors when it has them. -/
def flatten (size : Nat) (n : Node) (anchors : Anchors) : Except Error (Node × Anchors) :=
  flattenFrom ((size + 2) * (size + 2)) 0 [] n anchors

/-! ## Examination -/

/-- What has been examined: the anchors, with merge keys replaced, the names of those that are examined already, and the
collections still to be examined, last first. -/
structure Examined where
  anchors : Anchors
  begun : List Text
  later : List Node

namespace Examined

/-- A node met; a collection is examined later, once. Tells whether the node has the tag of a scalar. -/
def meet (n : Node) (x : Examined) : Except Error (Bool × Examined) := do
  match ← n.scalar? x.anchors with
  | some _ => return (true, x)
  | none =>
    match n.anchor? with
    | none => return (false, { x with later := n :: x.later })
    | some name =>
      if x.begun.contains name then return (false, x)
      return (false, { x with begun := name :: x.begun, later := n :: x.later })

/-- A key and its value met. -/
def meetEntry (key v : Node) (x : Examined) : Except Error Examined := do
  let (isScalar, x) ← x.meet key
  if !isScalar then throw (.malformed .keyUnhashable)
  return (← x.meet v).2

/-- The single entry of an item of a list of entries met. -/
def meetPair (item : Node) (x : Examined) : Except Error Examined :=
  match item.meant x.anchors with
  | mapping _ _ [(k, v)] => do
    let x := (← x.meet k).2
    return (← x.meet v).2
  | mapping _ _ _ => .error (.malformed .singlePairMissing)
  | _ => .error (.malformed .mappingMissing)

/-- The content of a collection met. -/
def meetContent (size : Nat) (n : Node) (x : Examined) : Except Error Examined :=
  let n := n.meant x.anchors
  match n.tag, n with
  | .sequence, sequence _ _ items => items.foldlM (fun x item => do return (← x.meet item).2) x
  | .sequence, _ => .error (.malformed .sequenceMissing)
  | .ordered, sequence _ _ items | .pairs, sequence _ _ items => items.foldlM (fun x item => x.meetPair item) x
  | .ordered, _ | .pairs, _ => .error (.malformed .sequenceMissing)
  | _, mapping _ _ _ => do
    let (n, anchors) ← n.flatten size x.anchors
    n.entries.foldlM (fun x e => x.meetEntry e.1 e.2) { x with anchors := anchors }
  | _, _ => .error (.malformed .mappingMissing)

end Examined

/-- The anchors after all collections are examined, level by level. -/
def examine (size : Nat) : (levels : Nat) → Examined → Except Error Anchors
  | 0, x => .ok x.anchors
  | levels + 1, x =>
    if x.later.isEmpty then .ok x.anchors
    else do
      let x ← x.later.reverse.foldlM (fun x n => x.meetContent size n) { x with later := [] }
      examine size levels x

/-! ## Values -/

/-- The value of an examined node, down to a depth. -/
def value (size : Nat) (anchors : Anchors) : (depth : Nat) → Node → Value
  | 0, _ => .collection false
  | depth + 1, n =>
    let n := n.meant anchors
    match n.scalar? anchors with
    | .ok (some s) => .scalar s
    | .error _ => .collection false
    | .ok none =>
      match n.tag, n with
      | .mapping, mapping _ _ _ =>
        let entries := ((n.flatten size anchors).map (·.1.entries)).toOption.getD []
        let put (es : List (Scalar × Value)) (e : Node × Node) : List (Scalar × Value) :=
          match e.1.scalar? anchors with
          | .ok (some key) => Value.putEntry key (value size anchors depth e.2) es
          | _ => es
        .mapping (entries.foldl put [])
      | _, mapping _ _ _ => .collection (((n.flatten size anchors).map (·.1.entries)).toOption.getD []).isEmpty
      | _, sequence _ _ items => .collection items.isEmpty
      | _, _ => .collection false

end Node

/-- The number of nodes in a document. -/
def Document.size (d : Document) : Nat := (d.root.map Node.size).getD 0

/-- The value of a document, down to a depth. -/
def Document.value (depth : Nat) (d : Document) : Except Error Value :=
  match d.root with
  | none => .ok (.scalar .null)
  | some root => do
    let (_, x) ← Node.Examined.meet root ⟨d.anchors, [], []⟩
    let anchors ← Node.examine d.size (d.size + 1) x
    return root.value d.size anchors depth

/-- The value of a source, down to a depth. -/
def read (depth : Nat) (s : Source) : Except Error Value := do
  let d ← Document.compose s
  d.value depth

end MonitorIntake.Yaml
