import MonitorIntake.Yaml.Tag

/-!
# YAML nodes

A node is a scalar, a sequence, a mapping or an alias of a node that has an anchor. Anchors are unique in a document, so
the document is a tree together with the nodes that aliases may stand for (`Document`); such a node may hold aliases of
itself.
-/

namespace MonitorIntake.Yaml

/-- What tells a node from others: its anchor, if it has one, and a number, which no two nodes share that are written
with a content of their own. -/
structure Label where
  anchor : Option Text
  number : Nat

/-- A node. -/
inductive Node
  | scalar (label : Label) (tag : Tag) (t : Text)
  | sequence (label : Label) (tag : Tag) (items : List Node)
  | mapping (label : Label) (tag : Tag) (entries : List (Node × Node))
  /-- An alias. -/
  | reference (name : Text)
  deriving Inhabited

/-- The nodes of a document that have anchors. -/
abbrev Anchors := List (Text × Node)

namespace Anchors

/-- The nodes with another node in the place of the one with an anchor. -/
def replace (name : Text) (n : Node) (anchors : Anchors) : Anchors :=
  anchors.map fun p => if p.1 = name then (name, n) else p

end Anchors

namespace Node

/-- The anchor of a node. -/
def anchor? : Node → Option Text
  | scalar label _ _ => label.anchor
  | sequence label _ _ => label.anchor
  | mapping label _ _ => label.anchor
  | reference name => some name

/-- The number of a node; an alias has none of its own. -/
def number : Node → Nat
  | scalar label _ _ => label.number
  | sequence label _ _ => label.number
  | mapping label _ _ => label.number
  | reference _ => 0

/-- The node that is meant: an alias means the node with its anchor. -/
def meant (anchors : Anchors) (n : Node) : Node :=
  match n.anchor? with
  | some name => (anchors.lookup name).getD n
  | none => n

/-- The tag of a node; an alias by itself has that of text. -/
def tag : Node → Tag
  | scalar _ tag _ => tag
  | sequence _ tag _ => tag
  | mapping _ tag _ => tag
  | reference _ => .text

end Node

/-- A document: its root, if it has one, and the nodes that aliases may stand for. -/
structure Document where
  root : Option Node
  anchors : Anchors

end MonitorIntake.Yaml
