import MonitorIntake.Yaml.Cursor

/-!
# YAML tokens

The elements that a YAML text is made of. Keys and the beginnings and ends of blocks are tokens of their own, although
nothing may be written for them.
-/

namespace MonitorIntake.Yaml

/-- A directive before a document. -/
inductive Directive
  | version (major minor : Nat)
  | tagHandle (handle uri : Text)
  /-- A directive of an unknown name, which has no effect. -/
  | other
  deriving DecidableEq

/-- A token. -/
inductive Token
  | directive (d : Directive)
  | documentStart
  | documentEnd
  | streamEnd
  | blockSequenceStart
  | blockMappingStart
  | blockEnd
  | flowSequenceStart
  | flowSequenceEnd
  | flowMappingStart
  | flowMappingEnd
  | blockEntry
  | flowEntry
  | key
  | value
  /-- An alias. -/
  | reference (name : Text)
  | anchor (name : Text)
  | tag (handle : Option Text) (suffix : Text)
  /-- A scalar; `plain` tells that it is not quoted and no block. -/
  | scalar (t : Text) (plain : Bool)
  deriving DecidableEq

/-- A scalar and the cursor after it. -/
abbrev ScannedText := Text × Cursor

end MonitorIntake.Yaml
