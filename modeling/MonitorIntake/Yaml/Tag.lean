import MonitorIntake.Text.Basic

/-!
# YAML tags

The tag of a node names the type of its value. The standard types have tags with a common beginning; any other tag is
kept as it is.
-/

namespace MonitorIntake.Yaml

/-- A tag, those of the standard types by name. -/
inductive Tag
  | null
  | truth
  | integer
  | number
  | binary
  | timestamp
  | ordered
  | pairs
  | set
  | text
  | sequence
  | mapping
  | merge
  | value
  | other (uri : Text)
  deriving DecidableEq

namespace Tag

/-- The beginning of the standard tags. -/
def standardStart : Text := "tag:yaml.org,2002:".toText

/-- The last parts of the standard tags. -/
def standardNames : List (Text × Tag) :=
  [("null".toText, null), ("bool".toText, truth), ("int".toText, integer), ("float".toText, number),
    ("binary".toText, binary), ("timestamp".toText, timestamp), ("omap".toText, ordered), ("pairs".toText, pairs),
    ("set".toText, set), ("str".toText, text), ("seq".toText, sequence), ("map".toText, mapping),
    ("merge".toText, merge), ("value".toText, value)]

/-- The tag of a URI. -/
def ofUri (uri : Text) : Tag :=
  match standardNames.find? fun p => standardStart ++ p.1 == uri with
  | some p => p.2
  | none => other uri

/-- What a tag handle stands for as long as no directive says otherwise. -/
def standardHandles : List (Text × Text) := [("!".toText, "!".toText), ("!!".toText, standardStart)]

end Tag

end MonitorIntake.Yaml
