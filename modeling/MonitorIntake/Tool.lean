import MonitorIntake.Config
import MonitorIntake.Tool.Kind

/-!
# Tools

A tool of a kind has a name and a description, which a host may change, and the client that it was made with. It is made
by a factory. `Tool.apply` gives a tool the name and the description that a configuration has for its type.
-/

namespace MonitorIntake

/-- A tool, for any type of clients. -/
structure Tool (κ : Type) where
  kind : ToolKind
  name : Text
  description : Text
  client : Option κ

/-- A factory of tools of one kind. -/
structure Factory (κ : Type) where
  kind : ToolKind
  client : Option κ

namespace Tool

variable {κ : Type}

/-- A new tool. -/
def make (k : ToolKind) (client : Option κ) : Tool κ := ⟨k, k.typeName, k.defaultDescription, client⟩

/-- The tool with the name and the description of an override, as far as it has them. -/
def override (o : Override) (t : Tool κ) : Tool κ :=
  { t with name := o.name.getD t.name, description := o.description.getD t.description }

/-- The tool with what a configuration says about its type. -/
def apply (c : Config) (t : Tool κ) : Tool κ :=
  match c.override? t.kind.typeName with
  | some o => t.override o
  | none => t

/-- A new tool with what a configuration, if there is one, says about its type. -/
def configured (k : ToolKind) (client : Option κ) (c : Option Config) : Tool κ :=
  match c with
  | some c => (make k client).apply c
  | none => make k client

end Tool

/-- The tool that a factory makes. -/
def Factory.create {κ : Type} (f : Factory κ) : Tool κ := Tool.make f.kind f.client

end MonitorIntake
