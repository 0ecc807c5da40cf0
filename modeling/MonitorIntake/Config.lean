import MonitorIntake.Config.Issue

/-!
# Configurations

A configuration overrides the names and descriptions of tools, by type. It is read from data with a mapping `tools`
(`Config.ofDatum`): either the data has no issues, or all of them are reported (`Config.issues`). Other entries of the
data have no effect.
-/

namespace MonitorIntake

/-- What replaces the name and the description of a tool. -/
structure Override where
  name : Option Text
  description : Option Text
  deriving DecidableEq

/-- The overrides of tool types, in order. -/
structure Config where
  overrides : List (Text × Override)
  deriving DecidableEq

namespace Override

/-- The fields of an override. -/
def shape : Shape := ⟨"ToolOverride".toText, ["name".toText, "description".toText], false⟩

/-- The override that data without issues stands for. -/
def ofDatum : Datum → Override
  | .mapping entries => ⟨fieldText "name".toText entries, fieldText "description".toText entries⟩
  | _ => ⟨none, none⟩

end Override

namespace Config

/-- The configuration without overrides. -/
def empty : Config := ⟨[]⟩

/-- The override of a tool type. -/
def override? (c : Config) (type : Text) : Option Override := c.overrides.lookup type

/-- The name of the entry that holds the overrides. -/
def toolsName : Text := "tools".toText

/-- The tool type that a key names; bytes count as the text that they encode. -/
def readType : Key → Except Cause Text
  | .text t => .ok t
  | .bytes bs => (Text.ofUtf8 bs).mapError fun _ => .brokenText
  | .other _ => .error .noText

/-- What is wrong with the key of an override. -/
def typeIssue? (key : Key) : Option Issue :=
  match readType key with
  | .ok _ => none
  | .error cause => some ⟨[.name toolsName, key.step, .name "[key]".toText], cause⟩

/-- What is wrong with one entry of the overrides. -/
def entryIssues (e : Key × Datum) : List Issue :=
  (typeIssue? e.1).toList ++ (recordIssues Override.shape e.2).map (Issue.under [.name toolsName, e.1.step])

/-- What is wrong with the overrides. -/
def toolsIssues : Datum → List Issue
  | .mapping entries => entries.flatMap entryIssues
  | _ => [⟨[.name toolsName], .noMapping⟩]

/-- What is wrong with data that should be a configuration. -/
def issues : Datum → List Issue
  | .mapping entries =>
    match Datum.field? toolsName entries with
    | some d => toolsIssues d
    | none => []
  | _ => [⟨[], .noRecord "ToolsConfig".toText⟩]

/-- The overrides with one given to a type: in the place of the type, or at the end. -/
def putOverride (type : Text) (o : Override) : List (Text × Override) → List (Text × Override)
  | [] => [(type, o)]
  | (t, p) :: rest => if t = type then (t, o) :: rest else (t, p) :: putOverride type o rest

/-- The overrides with that of one entry. -/
def addEntry (overrides : List (Text × Override)) (e : Key × Datum) : List (Text × Override) :=
  match readType e.1 with
  | .ok type => putOverride type (Override.ofDatum e.2) overrides
  | .error _ => overrides

/-- The overrides in data without issues. -/
def overridesOf (d : Datum) : List (Text × Override) :=
  match d with
  | .mapping entries =>
    match Datum.field? toolsName entries with
    | some (.mapping tools) => tools.foldl addEntry []
    | _ => []
  | _ => []

/-- The configuration that data stands for, or all that is wrong with the data. -/
def ofDatum (d : Datum) : Except (List Issue) Config :=
  if (issues d).isEmpty then .ok ⟨overridesOf d⟩ else .error (issues d)

end Config

end MonitorIntake
