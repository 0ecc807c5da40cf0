import MonitorIntake.Config.Path
import MonitorIntake.Text.Utf8

/-!
# Files

The files below the working directory (`Files`), and what a path leads to (`Files.find`). Two dots lead to the directory
above, and only a directory leads any further. Names are bytes: two texts with the same bytes name one file, where half
of a surrogate pair may stand for a byte that is no text (`CodePoint.nameBytes`). Of what lies elsewhere only the
directories are known that every system has, and the empty device.
-/

namespace MonitorIntake

/-- What lies at a place: a directory, or a file with its bytes. -/
inductive FileEntry
  | directory
  | file (bytes : List UInt8)

/-- The entries below the working directory, by the components of their paths. -/
abbrev Files := List (List Text × FileEntry)

/-- What a path leads to. -/
inductive Found
  | missing
  | entry (e : FileEntry)
  /-- The path or one of its components is too long. -/
  | tooLong

/-- A place: in or below the working directory, some levels above it, or below the root; the last component first. -/
inductive Spot
  | below (components : List Text)
  | above (levels : Nat)
  | rooted (components : List Text)

namespace Spot

/-- The directory above. -/
def up : Spot → Spot
  | below [] => above 1
  | below (_ :: rest) => below rest
  | above n => above (n + 1)
  | rooted components => rooted components.tail

end Spot

namespace CodePoint

/-- The second half of a surrogate pair stands for a byte above ASCII. -/
def isByte (c : CodePoint) : Bool := 0xDC80 ≤ c.val && c.val ≤ 0xDCFF

/-- The bytes of a code point in the name of a file. -/
def nameBytes (c : CodePoint) : List UInt8 := if c.isByte then [c.val.toUInt8] else c.utf8

end CodePoint

/-- The bytes of the name of a file. -/
def Text.nameBytes (t : Text) : List UInt8 := t.flatMap CodePoint.nameBytes

namespace Files

/-- The directories below the root that every system has. -/
def rootDirectories : List (List Text) :=
  [[], ["bin".toText], ["dev".toText], ["etc".toText], ["home".toText], ["tmp".toText], ["usr".toText],
    ["usr".toText, "bin".toText], ["var".toText]]

/-- The most bytes of a component of a path. -/
def componentLimit : Nat := 255

/-- The most bytes of a path. -/
def pathLimit : Nat := 4095

/-- The entry below the working directory at a place; a directory is also what holds other entries. -/
def below? (fs : Files) (components : List Text) : Option FileEntry :=
  let names := components.map Text.nameBytes
  match fs.find? fun f => f.1.map Text.nameBytes == names with
  | some f => some f.2
  | none =>
    if names.isEmpty || fs.any fun f => names.isPrefixOf (f.1.map Text.nameBytes) then some .directory else none

/-- The entry at a place. -/
def entry? (fs : Files) : Spot → Option FileEntry
  | .below components => fs.below? components.reverse
  | .above _ => some .directory
  | .rooted components =>
    if rootDirectories.contains components.reverse then some .directory
    else if components.reverse = ["dev".toText, "null".toText] then some (.file [])
    else none

/-- The entry of a directory with a given name. -/
def child (name : Text) : Spot → Option Spot
  | .below components => some (.below (name :: components))
  | .above _ => none
  | .rooted components => some (.rooted (name :: components))

/-- What the rest of a path leads to from a place. -/
def walk (fs : Files) (s : Spot) : List Text → Found
  | [] =>
    match fs.entry? s with
    | some e => .entry e
    | none => .missing
  | name :: rest =>
    match fs.entry? s with
    | some .directory =>
      if name = "..".toText then walk fs s.up rest
      else if componentLimit < name.nameBytes.length then .tooLong
      else
        match child name s with
        | some s => walk fs s rest
        | none => .missing
    | _ => .missing

/-- A path that can be looked for at all: without a zero byte and without half pairs of surrogates that are no bytes. -/
def isNameable (t : Text) : Bool := t.all fun c => c.val ≠ 0 && (!c.isSurrogate || c.isByte)

/-- What a path leads to. -/
def find (fs : Files) (p : Path) : Found :=
  if !isNameable p.text then .missing
  else if pathLimit < p.text.nameBytes.length then .tooLong
  else
    match p.root with
    | .relative => fs.walk (.below []) p.components
    | _ => fs.walk (.rooted []) p.components

end Files

end MonitorIntake
