import MonitorIntake.Tool

/-!
# Tools with a configuration

A tool takes on the name and the description that a configuration has for its type, each on its own, and nothing else of
it is changed (`Tool.configured_eq`). A configuration without an override for the type changes nothing
(`Tool.configured_of_unlisted`).
-/

namespace MonitorIntake.Tool

variable {κ : Type}

/-- A tool takes on what a configuration says about its type, as far as it says it. -/
theorem apply_mk (k : ToolKind) (name description : Text) (client : Option κ) (c : Config) :
    Tool.apply c ⟨k, name, description, client⟩ =
      ⟨k, ((c.override? k.typeName).bind Override.name).getD name,
        ((c.override? k.typeName).bind Override.description).getD description, client⟩ := by
  unfold Tool.apply
  dsimp only
  cases c.override? k.typeName <;> rfl

/-- **A new tool has the name and the description of the configuration, as far as it has them.** -/
theorem configured_eq (k : ToolKind) (client : Option κ) (c : Option Config) :
    Tool.configured k client c =
      ⟨k, ((c.bind fun c => c.override? k.typeName).bind Override.name).getD k.typeName,
        ((c.bind fun c => c.override? k.typeName).bind Override.description).getD k.defaultDescription, client⟩ := by
  -- Rewritten step by step: to compare the sides as they are would unfold the text of the default description.
  cases c with
  | none =>
    rw [Option.bind_none, Option.bind_none, Option.bind_none, Option.getD_none, Option.getD_none]
    rfl
  | some c => rw [Option.bind_some, Tool.configured, Tool.make, apply_mk]

theorem configured_of_unlisted {k : ToolKind} {c : Config} (h : c.override? k.typeName = none) (client : Option κ) :
    Tool.configured k client (some c) = .make k client := by
  rw [configured_eq, Option.bind_some, h, Option.bind_none, Option.bind_none, Option.getD_none, Option.getD_none]
  rfl

end MonitorIntake.Tool
