import MonitorIntake.Config
import MonitorIntake.Config.Files

/-!
# Loading configurations

`Config.load` reads the configuration at a path. Where nothing is found, and where the document counts for nothing,
there are no overrides. A document has to be a mapping, and the mapping the data of a configuration.
-/

namespace MonitorIntake

/-- Why a configuration cannot be loaded. -/
inductive LoadError
  | directory (p : Path)
  | nameTooLong (p : Path)
  | undecodable (e : Utf8Error)
  | malformed (p : Path) (f : Yaml.Fault)
  | scalar (f : Yaml.ScalarFault)
  | tooDeep
  | noMapping (p : Path)
  | invalid (p : Path) (issues : List Issue)

namespace Step

/-- The text of a step. -/
def text : Step → Text
  | name t => t
  | number i => Text.ofInt i

end Step

/-- The text of an issue: its place and its cause. -/
def Issue.text (i : Issue) : Text :=
  Text.joinWith ".".toText (i.location.map Step.text) ++ ": ".toText ++ i.cause.message

namespace LoadError

/-- The wording of an error, but for its details. -/
def heading : LoadError → Text
  | directory p => "[Errno 21] Is a directory: ".toText ++ p.text.quoted
  | nameTooLong p => "[Errno 36] File name too long: ".toText ++ p.text.quoted
  | undecodable e => e.message
  | malformed p _ => "Invalid YAML in tool config ".toText ++ p.text ++ ": ".toText
  | scalar f => f.message
  | tooDeep => "maximum recursion depth exceeded".toText
  | noMapping p => "Tool config ".toText ++ p.text ++ " must be a mapping".toText
  | invalid p _ => "Invalid tool config ".toText ++ p.text ++ ": ".toText

/-- The details of an error. -/
def detail? : LoadError → Option Text
  | malformed _ f => some f.message
  | invalid _ issues => some (Text.joinWith "\n".toText (issues.map Issue.text))
  | _ => none

/-- The wording of an error. -/
def message (e : LoadError) : Text := e.heading ++ e.detail?.getD []

/-- The error is one of the content of the configuration, which a command line reports as such. -/
def isContent : LoadError → Bool
  | directory _ | nameTooLong _ | tooDeep => false
  | scalar f => f.isValueError
  | _ => true

/-- The error of a YAML document at a path. -/
def ofYaml (p : Path) : Yaml.Error → LoadError
  | .malformed f => malformed p f
  | .scalar f => scalar f
  | .undecodable e => undecodable e
  | .tooDeep => tooDeep

end LoadError

namespace Config

/-- How far down the value of a document is read. -/
def documentDepth : Nat := 5

/-- The configuration in the value of a document at a path. -/
def ofValue (p : Path) (v : Yaml.Value) : Except LoadError Config :=
  if v.isVoid then .ok empty
  else
    match v with
    | .mapping _ => (ofDatum (Datum.ofYaml v)).mapError (LoadError.invalid p)
    | _ => .error (.noMapping p)

/-- The configuration in the bytes of a file at a path. -/
def ofBytes (p : Path) (bytes : List UInt8) : Except LoadError Config := do
  let v ← (Yaml.read documentDepth (Yaml.Source.ofBytes bytes)).mapError (LoadError.ofYaml p)
  ofValue p v

/-- The configuration at a path, by what is found there. -/
def load (p : Path) (found : Found) : Except LoadError Config :=
  match found with
  | .missing => .ok empty
  | .tooLong => .error (.nameTooLong p)
  | .entry .directory => .error (.directory p)
  | .entry (.file bytes) => ofBytes p bytes

end Config

end MonitorIntake
