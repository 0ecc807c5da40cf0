import MonitorIntake.Tool
import MonitorIntake.Tool.Run

/-!
# Hosts

A host keeps factories and tools. For each kind there is one shared factory, which is made when it is first asked for,
and any number of others. Changing the client of a factory does not change the tools that it has made. What happens in
a host is a list of actions (`Host.act`); a factory or a tool is named by its number, in the order in which they were
made.
-/

namespace MonitorIntake

/-- The number of a factory in a host. -/
structure FactoryId where
  index : Nat
  deriving DecidableEq

/-- The number of a tool in a host. -/
structure ToolId where
  index : Nat
  deriving DecidableEq

/-- The factories and tools of a host, and which factories are shared. -/
structure Host (κ : Type) where
  factories : List (Factory κ)
  tools : List (Tool κ)
  shared : List (ToolKind × FactoryId)

namespace Host

variable {κ : Type}

/-- A host in which nothing has happened. -/
def fresh : Host κ := ⟨[], [], []⟩

/-- The factory with a number. -/
def factory? (h : Host κ) (f : FactoryId) : Option (Factory κ) := h.factories[f.index]?

/-- The tool with a number. -/
def tool? (h : Host κ) (t : ToolId) : Option (Tool κ) := h.tools[t.index]?

/-- A new factory, and its number. -/
def addFactory (k : ToolKind) (client : Option κ) (h : Host κ) : FactoryId × Host κ :=
  (⟨h.factories.length⟩, { h with factories := h.factories ++ [⟨k, client⟩] })

/-- The shared factory of a kind, which has no client when it is made. -/
def sharedFactory (k : ToolKind) (h : Host κ) : FactoryId × Host κ :=
  match h.shared.lookup k with
  | some f => (f, h)
  | none =>
    let (f, h) := h.addFactory k none
    (f, { h with shared := (k, f) :: h.shared })

/-- The client of a factory replaced. -/
def setClient (f : FactoryId) (client : Option κ) (h : Host κ) : Host κ :=
  { h with factories := h.factories.modify f.index fun x => { x with client := client } }

/-- A new tool, and its number. -/
def addTool (t : Tool κ) (h : Host κ) : ToolId × Host κ :=
  (⟨h.tools.length⟩, { h with tools := h.tools ++ [t] })

/-- A tool made by a factory, and its number. -/
def create (f : FactoryId) (h : Host κ) : Option (ToolId × Host κ) :=
  (h.factory? f).map fun x => h.addTool x.create

/-- A tool of a kind, and its number. -/
def createTool (k : ToolKind) (client : Option κ) (c : Option Config) (h : Host κ) : ToolId × Host κ :=
  h.addTool (Tool.configured k client c)

/-- A tool changed. -/
def change (t : ToolId) (change : Tool κ → Tool κ) (h : Host κ) : Host κ :=
  { h with tools := h.tools.modify t.index change }

/-- A configuration applied to a tool. -/
def applyConfig (c : Config) (t : ToolId) (h : Host κ) : Host κ := h.change t (Tool.apply c)

/-- A tool given another name. -/
def setName (t : ToolId) (name : Text) (h : Host κ) : Host κ := h.change t fun x => { x with name := name }

/-- A tool given another description. -/
def setDescription (t : ToolId) (description : Text) (h : Host κ) : Host κ :=
  h.change t fun x => { x with description := description }

end Host

/-- What can happen in a host. -/
inductive Action (κ : Type)
  | sharedFactory (k : ToolKind)
  | addFactory (k : ToolKind) (client : Option κ)
  | setClient (f : FactoryId) (client : Option κ)
  | create (f : FactoryId)
  | createTool (k : ToolKind) (client : Option κ) (c : Option Config)
  | applyConfig (c : Config) (t : ToolId)
  | setName (t : ToolId) (name : Text)
  | setDescription (t : ToolId) (description : Text)
  | run (t : ToolId) (parameters : Members)

/-- The host after an action. -/
def Host.act {κ : Type} (h : Host κ) : Action κ → Host κ
  | .sharedFactory k => (h.sharedFactory k).2
  | .addFactory k client => (h.addFactory k client).2
  | .setClient f client => h.setClient f client
  | .create f => ((h.create f).map (·.2)).getD h
  | .createTool k client c => (h.createTool k client c).2
  | .applyConfig c t => h.applyConfig c t
  | .setName t name => h.setName t name
  | .setDescription t description => h.setDescription t description
  | .run _ _ => h

/-- The host after a list of actions. -/
def Host.after {κ : Type} (h : Host κ) (actions : List (Action κ)) : Host κ := actions.foldl Host.act h

end MonitorIntake
