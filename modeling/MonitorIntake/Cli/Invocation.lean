import MonitorIntake.Cli.Arguments
import MonitorIntake.Text.Quoted

/-!
# Invocations

What a command line asks for (`Invocation.ofArguments`), or why it cannot be understood (`UsageError`). The options of
the whole line are read first. Help and the version are given before anything else is looked at, the one that comes
first before the other. What begins with a hyphen in the place of a command is read as an option of the whole line
once more, before it is refused.
-/

namespace MonitorIntake.Cli

/-- What a command line asks for. -/
inductive Task
  | help (c : Option Command)
  | version
  /-- Nothing is asked for, so the help is shown as an error. -/
  | nothing
  | listTools
  | describe (type : Text) (config : Option Text) (json : Bool)
  | run (type : Text) (input config : Option Text)

/-- A task, and the level of the log. -/
structure Invocation where
  level : LogLevel
  task : Task

/-- What is wrong with a command line. -/
inductive UsageFault
  | argument (f : ArgumentFault)
  | level (t : Text)
  | commandMissing
  | commandUnknown (name : Text) (guesses : List Text)
  | typeMissing
  | extraArguments (ts : List Text)

/-- What is wrong, and with the part of which command. -/
structure UsageError where
  command : Option Command
  fault : UsageFault

namespace UsageFault

/-- The names that may be meant, as a question. -/
def question (guesses : List Text) : Text :=
  match guesses with
  | [] => []
  | [name] => " Did you mean ".toText ++ name.quoted ++ "?".toText
  | names => " (Did you mean one of: ".toText ++ Text.joinWith ", ".toText (names.map Text.quoted) ++ "?)".toText

/-- The wording of a fault. -/
def message : UsageFault → Text
  | argument (.unknown name guesses) => "No such option ".toText ++ name.quoted ++ ".".toText ++ question guesses
  | argument (.valueMissing name) => "Option ".toText ++ name.quoted ++ " requires an argument.".toText
  | argument (.valueUnexpected name) => "Option ".toText ++ name.quoted ++ " does not take a value.".toText
  | level t =>
    "Invalid value for '--log-level': ".toText ++ t.quoted ++ " is not one of ".toText ++
      Text.joinWith ", ".toText (LogLevel.all.map fun l => (levelWord l).quoted) ++ ".".toText
  | commandMissing => "Missing command.".toText
  | commandUnknown name guesses => "No such command ".toText ++ name.quoted ++ ".".toText ++ question guesses
  | typeMissing => "Missing argument 'TOOL_TYPE'.".toText
  | extraArguments ts =>
    (if ts.length = 1 then "Got unexpected extra argument (" else "Got unexpected extra arguments (").toText ++
      Text.joinWith " ".toText ts ++ ")".toText

/-- The fault is shown together with the line of usage: all are but those of the values of options. -/
def showsUsage : UsageFault → Bool
  | argument (.valueMissing _) | argument (.valueUnexpected _) => false
  | _ => true

end UsageFault

namespace Invocation

/-- The level of a word in letters of either case. -/
def levelOf? (t : Text) : Option LogLevel := LogLevel.all.find? fun l => levelWord l == t.map CodePoint.asciiLower

/-- The task among options that comes before all others. -/
def early? (c : Option Command) (a : Arguments) : Option Task :=
  a.options.findSome? fun o =>
    if o.1 = "--help".toText then some (.help c) else if o.1 = "--version".toText then some .version else none

/-- The options of the whole line: a task that is done at once, or the level. -/
def lineOptions (a : Arguments) : Except UsageError (Task ⊕ LogLevel) :=
  match early? none a with
  | some r => .ok (.inl r)
  | none =>
    match a.value? levelFlag.name with
    | none => .ok (.inr .warning)
    | some t =>
      match levelOf? t with
      | some l => .ok (.inr l)
      | none => .error ⟨none, .level t⟩

/-- The arguments of a part of the line. -/
def readPart (c : Option Command) (u : Usage) (ts : List Text) : Except UsageError Arguments :=
  (Arguments.read u ts).mapError fun f => ⟨c, .argument f⟩

/-- The tool type of a command. -/
def toolType (c : Command) : List Text → Except UsageError Text
  | [] => .error ⟨some c, .typeMissing⟩
  | [type] => .ok type
  | _ :: more => .error ⟨some c, .extraArguments more⟩

/-- The task of a command. -/
def ofCommand (c : Command) (ts : List Text) : Except UsageError Task := do
  let a ← readPart (some c) c.usage ts
  match early? (some c) a with
  | some r => return r
  | none =>
    match c with
    | .listTools =>
      if a.others.isEmpty then return .listTools
      throw ⟨some c, .extraArguments a.others⟩
    | .describe => return .describe (← toolType c a.others) (a.value? configFlag.name) (a.has "--json".toText)
    | .run => return .run (← toolType c a.others) (a.value? "--input".toText) (a.value? configFlag.name)

/-- The name begins with a hyphen. -/
def beginsWithHyphen (t : Text) : Bool := t.head? == some ('-' : CodePoint)

/-- The task of a line that names no command: one that is done at once, or none. -/
def withoutCommand (name : Text) (rest : List Text) : Except UsageError Task := do
  if beginsWithHyphen name then
    match ← lineOptions (← readPart none lineUsage (name :: rest)) with
    | .inl r => return r
    | .inr _ => pure ()
  throw ⟨none, .commandUnknown name (Text.guesses (Command.all.map Command.name) name)⟩

/-- The task after the options of the whole line. -/
def ofOthers : List Text → Except UsageError Task
  | [] => .error ⟨none, .commandMissing⟩
  | name :: rest =>
    match Command.ofName? name with
    | some c => ofCommand c rest
    | none => withoutCommand name rest

/-- What the arguments of a line ask for. -/
def ofArguments (ts : List Text) : Except UsageError Invocation := do
  if ts.isEmpty then return ⟨.warning, .nothing⟩
  let a ← readPart none lineUsage ts
  match ← lineOptions a with
  | .inl r => return ⟨.warning, r⟩
  | .inr level => return ⟨level, ← ofOthers a.others⟩

end Invocation

end MonitorIntake.Cli
