import MonitorIntake.Json.Literal
import MonitorIntake.Text.Blank
import MonitorIntake.Tool.Failure

/-!
# Extraction of parameters

The parameters of a run have a member `input`, the text of a JSON object. `decode` says what became of it: it may be
absent, unreadable, or some other value than an object. `extract` keeps the object and checks the text of its member
`index`, where no index and a blank one are the same. Whatever is wrong with the input, the parameters are then empty,
with one exception: an integer with too many digits is reported as a failure.
-/

namespace MonitorIntake

/-- The name of the parameter that is decoded. -/
def inputName : Text := "input".toText

/-- The name of the member that is checked. -/
def indexName : Text := "index".toText

/-- What became of the `input` parameter. -/
inductive Decoding
  | absent
  /-- It is no text, or its text denotes no JSON value. -/
  | unreadable
  | notObject (v : Json)
  | object (members : Members)

/-- The decoding of the value of `input`. -/
def decodeText (t : Text) : Except Failure Decoding :=
  match Json.read t with
  | .ok (.object members) => .ok (.object members)
  | .ok v => .ok (.notObject v)
  | .error (.tooManyDigits count) => .error (.tooManyDigits count)
  | .error _ => .ok .unreadable

/-- The decoding of the `input` among the parameters. -/
def decode (parameters : Members) : Except Failure Decoding :=
  match Members.get? inputName parameters with
  | none => .ok .absent
  | some (.string t) => decodeText t
  | some _ => .ok .unreadable

/-- What the check of the index came to. -/
inductive ExtractionStatus
  | ok
  | invalidIndex
  | decodeEmpty
  deriving DecidableEq

/-- The decoded parameters and the text of their index. -/
structure Extraction where
  status : ExtractionStatus
  parameters : Members
  index : Text

namespace Extraction

/-- The extraction of an input that is no object. -/
def empty : Extraction := ⟨.decodeEmpty, [], []⟩

/-- The text of the index among some members; without an index, or with a null one, it is empty. -/
def indexText (members : Members) : Text :=
  match Members.get? indexName members with
  | none => []
  | some .null => []
  | some v => v.display

/-- The extraction of an object: its index is kept if it is not blank. -/
def ofMembers (members : Members) : Extraction :=
  let index := indexText members
  if index.isBlank then ⟨.invalidIndex, members, []⟩ else ⟨.ok, members, index⟩

/-- The extraction has an index. -/
def isOk (e : Extraction) : Bool := e.status == .ok

end Extraction

/-- The extraction of a decoded input. -/
def Decoding.extraction : Decoding → Extraction
  | .object members => .ofMembers members
  | _ => .empty

/-- The extraction of the parameters of a run. -/
def extract (parameters : Members) : Except Failure Extraction := (decode parameters).map Decoding.extraction

end MonitorIntake
