import MonitorIntake.Json.Value
import MonitorIntake.Text.Utf8
import MonitorIntake.Yaml.Value

/-!
# Data of configurations

What a configuration is read from, whether it came from JSON or from YAML: texts, bytes that may be a text, mappings,
and everything else, of which only the kind matters. A place in the data is the list of the keys that lead to it
(`Location`); a key that is no text appears there as the number or the text that it is shown as.
-/

namespace MonitorIntake

/-- One step on the way to a place in data. -/
inductive Step
  | name (t : Text)
  | number (i : Int)
  deriving DecidableEq

/-- A place in data. -/
abbrev Location := List Step

/-- A key of a mapping. -/
inductive Key
  | text (t : Text)
  | bytes (bs : List UInt8)
  | other (shown : Step)
  deriving DecidableEq

/-- Data, as far as a configuration can tell it apart. -/
inductive Datum
  | null
  | text (t : Text)
  | bytes (bs : List UInt8)
  | mapping (entries : List (Key × Datum))
  | other
  deriving Inhabited

namespace Key

/-- A text in a place: half of a surrogate pair shows as the replacements of its three bytes. -/
def shownText (t : Text) : Text :=
  t.flatMap fun c => if c.isSurrogate then List.replicate 3 ('\uFFFD' : CodePoint) else [c]

/-- The key as a step to its value. -/
def step : Key → Step
  | text t => .name (shownText t)
  | bytes bs => .name (Yaml.Scalar.bytesText bs)
  | other shown => shown

/-- The key of a scalar; integers of 64 bits and truth values are numbers. -/
def ofScalar : Yaml.Scalar → Key
  | .text t => text t
  | .bytes bs => bytes bs
  | .truth b => other (.number (if b then 1 else 0))
  | .integer i =>
    if -0x8000000000000000 ≤ i ∧ i < 0x8000000000000000 then other (.number i)
    else other (.name (Yaml.Scalar.integer i).shown)
  | s => other (.name s.shown)

end Key

namespace Datum

/-- The data of a scalar. -/
def ofScalar : Yaml.Scalar → Datum
  | .null => null
  | .text t => text t
  | .bytes bs => bytes bs
  | _ => other

mutual

/-- The data of a YAML value. -/
def ofYaml : Yaml.Value → Datum
  | .scalar s => ofScalar s
  | .mapping entries => mapping (ofYamlEntries entries)
  | .collection _ => other

/-- The entries of the data of a YAML mapping. -/
def ofYamlEntries : List (Yaml.Scalar × Yaml.Value) → List (Key × Datum)
  | [] => []
  | (k, v) :: rest => (Key.ofScalar k, ofYaml v) :: ofYamlEntries rest

end

mutual

/-- The data of a JSON value. -/
def ofJson : Json → Datum
  | .null => null
  | .string t => text t
  | .object members => mapping (ofJsonMembers members)
  | _ => other

/-- The entries of the data of a JSON object. -/
def ofJsonMembers : List (Text × Json) → List (Key × Datum)
  | [] => []
  | (name, v) :: rest => (Key.text name, ofJson v) :: ofJsonMembers rest

end

/-- The value of a key that is the given text. -/
def field? (name : Text) (entries : List (Key × Datum)) : Option Datum := entries.lookup (.text name)

end Datum

end MonitorIntake
