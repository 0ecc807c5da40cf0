import MonitorIntake.Text.Basic

/-!
# Paths

A path in normal form (`Path`): its leading slashes, of which there are none, one or exactly two, and its components,
none of which is empty or a single dot. Two dots are kept, because what they mean depends on links. `Path.ofText`
reads a path and `Path.text` writes it; the path without slashes and components is a single dot.
-/

namespace MonitorIntake

/-- The leading slashes of a path. -/
inductive PathRoot
  | relative
  | absolute
  /-- Exactly two slashes, whose meaning is left open. -/
  | network
  deriving DecidableEq

/-- A path in normal form. -/
structure Path where
  root : PathRoot
  components : List Text
  deriving DecidableEq

namespace PathRoot

/-- The slashes of a root. -/
def text : PathRoot → Text
  | relative => []
  | absolute => ['/']
  | network => ['/', '/']

/-- The root of a path, by the slashes that it begins with. -/
def ofText (t : Text) : PathRoot :=
  match (t.takeWhile (· = ('/' : CodePoint))).length with
  | 0 => relative
  | 2 => network
  | _ => absolute

end PathRoot

namespace Path

/-- A component that counts: neither empty nor a single dot. -/
def isProper (component : Text) : Bool := component ≠ [] && component ≠ ".".toText

/-- The path of a text. -/
def ofText (t : Text) : Path := ⟨PathRoot.ofText t, (Text.splitAt '/' t).filter isProper⟩

/-- The text of a path. -/
def text (p : Path) : Text :=
  let t := p.root.text ++ Text.joinWith "/".toText p.components
  if t.isEmpty then ".".toText else t

/-- The path where a configuration is looked for as long as no other is given. -/
def defaultConfig : Path := ⟨.relative, [".opensearch-agent-tools".toText, "tools.yaml".toText]⟩

/-- The path of the configuration: the given one, else the one in the environment unless it is empty, else the
default. -/
def resolve (given environment : Option Text) : Path :=
  match given with
  | some t => ofText t
  | none =>
    match environment with
    | some t => if t.isEmpty then defaultConfig else ofText t
    | none => defaultConfig

end Path

end MonitorIntake
