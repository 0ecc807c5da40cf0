import MonitorIntake.Cli.Command
import MonitorIntake.Text.Similarity

/-!
# Arguments

The arguments of a line are read by its usage (`Arguments.read`): an argument that begins with a hyphen is an option, up
to two hyphens alone, which end the options. The value of an option follows an equals sign or is the next argument.
Without mixing, the first argument that is no option ends the options too.
-/

namespace MonitorIntake.Cli

/-- Why arguments cannot be read. -/
inductive ArgumentFault
  /-- There is no such option; these may be meant. -/
  | unknown (name : Text) (guesses : List Text)
  | valueMissing (name : Text)
  | valueUnexpected (name : Text)

/-- Arguments: the options with their values, in order, and the others. -/
structure Arguments where
  options : List (Text × Option Text)
  others : List Text

namespace Arguments

/-- The name and the value of an option that may have an equals sign in it. -/
def splitValue (t : Text) : Text × Option Text :=
  let name := t.takeWhile (· ≠ ('=' : CodePoint))
  if name.length = t.length then (t, none) else (name, some (t.drop (name.length + 1)))

/-- The fault of an option that there is not: of several letters after one hyphen the first is named. -/
def unknownFault (u : Usage) (t : Text) : ArgumentFault :=
  match t with
  | c :: d :: _ =>
    if d = '-' then .unknown (splitValue t).1 (Text.guesses (u.flags.map Flag.name) (splitValue t).1)
    else .unknown [c, d] []
  | _ => .unknown t []

/-- The argument is written as an option. -/
def isOption (t : Text) : Bool := t.head? == some ('-' : CodePoint) && 1 < t.length

/-- The value of a name among the options, which is the last that was given. -/
def value? (name : Text) (a : Arguments) : Option Text := (a.options.reverse.lookup name).join

/-- The option is there. -/
def has (name : Text) (a : Arguments) : Bool := a.options.any fun o => o.1 == name

/-- The arguments of a line; `done` are the options so far, and `others` the other arguments, both last first. -/
def readFrom (u : Usage) : (fuel : Nat) → (done : List (Text × Option Text)) → (others : List Text) → List Text →
    Except ArgumentFault Arguments
  | 0, done, others, rest => .ok ⟨done.reverse, others.reverse ++ rest⟩
  | _ + 1, done, others, [] => .ok ⟨done.reverse, others.reverse⟩
  | fuel + 1, done, others, t :: rest =>
    if t = "--".toText then .ok ⟨done.reverse, others.reverse ++ rest⟩
    else if !isOption t then
      if u.isMixed then readFrom u fuel done (t :: others) rest
      else .ok ⟨done.reverse, others.reverse ++ t :: rest⟩
    else
      let (name, given) := splitValue t
      match u.flags.find? fun f => f.name == name with
      | none => .error (unknownFault u t)
      | some f =>
        match f.value.isSome, given, rest with
        | false, none, _ => readFrom u fuel ((name, none) :: done) others rest
        | false, some _, _ => .error (.valueUnexpected name)
        | true, some v, _ => readFrom u fuel ((name, some v) :: done) others rest
        | true, none, v :: rest => readFrom u fuel ((name, some v) :: done) others rest
        | true, none, [] => .error (.valueMissing name)

/-- The arguments of a line. -/
def read (u : Usage) (ts : List Text) : Except ArgumentFault Arguments := readFrom u (ts.length + 1) [] [] ts

end Arguments

end MonitorIntake.Cli
