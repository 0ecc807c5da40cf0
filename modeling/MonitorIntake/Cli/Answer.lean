import MonitorIntake.Cli.Help
import MonitorIntake.Cli.Invocation
import MonitorIntake.Config.Load
import MonitorIntake.Contract
import MonitorIntake.Report
import MonitorIntake.Text.Console
import MonitorIntake.Tool
import MonitorIntake.Version

/-!
# Answers of the command line

`Cli.answer` gives the exit code and the two outputs of a command line, as they are read back from the medium that keeps
them. A fault in the line has the exit code 2, a refused command 1. A configuration whose content is at fault is
refused; other faults of its file, and text that cannot be written to the output, break the command off (`Break`).
-/

namespace MonitorIntake.Cli

/-- What surrounds a command line: the page, the medium of the outputs, the configuration that the environment names,
the standard input, and what lies at each path. -/
structure Surroundings where
  page : Page
  medium : Medium
  configPath : Option Text
  input : StandardInput
  find : Path → Found

/-- What breaks a command off. -/
inductive Break
  | config (e : LoadError)
  /-- Half of a surrogate pair was to be written to the output. -/
  | output

/-- The exit code and the outputs of a command line. -/
structure Answer where
  exitCode : Nat
  output : Text
  errors : Text
  /-- The configuration that was refused. -/
  refused : Option LoadError
  broken : Option Break

namespace Answer

/-- An answer without faults. -/
def success (output errors : Text) : Answer := ⟨0, output, errors, none, none⟩

/-- The line about an error on the error stream. -/
def errorLine (m : Medium) (message : Text) : Text :=
  m.errorText (Text.withoutControls ("Error: ".toText ++ message)) ++ "\n".toText

/-- A refusal. -/
def refusal (m : Medium) (errors message : Text) : Answer := ⟨1, [], errors ++ errorLine m message, none, none⟩

/-- A configuration that cannot be loaded: refused for its content, and a break otherwise. -/
def ofLoadError (m : Medium) (e : LoadError) : Answer :=
  if e.isContent then { refusal m [] e.message with refused := some e } else ⟨1, [], [], none, some (.config e)⟩

/-- The answer that writes messages, each with a line end, as far as they can be written. -/
def writing (m : Medium) (errors : Text) (messages : List Text) : Answer :=
  let shown := messages.map Text.withoutControls
  let output := (shown.takeWhile m.canWrite).flatMap fun t => t ++ "\n".toText
  if shown.all m.canWrite then success output errors else ⟨1, output, errors, none, some .output⟩

/-- The answer to a line that cannot be understood. -/
def ofUsageError (p : Page) (m : Medium) (e : UsageError) : Answer :=
  let message := errorLine m e.fault.message
  let path := Help.path p e.command
  let usage := Help.usageLine p e.command ++
    "Try '".toText ++ path ++ " --help' for help.\n\n".toText
  ⟨2, [], if e.fault.showsUsage then usage ++ message else message, none, none⟩

/-- The answer with its outputs as they are read back. -/
def readBack (m : Medium) (a : Answer) : Answer :=
  { a with output := m.readBack a.output, errors := m.readBack a.errors }

end Answer

/-- The path of the configuration, by the option and the environment; an empty option counts as none. -/
def configPath (option environment : Option Text) : Path :=
  Path.resolve (option.filter fun t => !t.isEmpty) environment

/-- A tool with what the configuration says about its type. -/
def buildTool (s : Surroundings) (type : Text) (config : Option Text) : Except Answer (Tool Json) :=
  match ToolKind.ofName? type with
  | none => .error (Answer.refusal s.medium [] (ToolKind.unknownMessage type))
  | some k =>
    let path := configPath config s.configPath
    match Config.load path (s.find path) with
    | .ok c => .ok (Tool.configured k none (some c))
    | .error e => .error (Answer.ofLoadError s.medium e)

/-- The descriptor of a tool and the schema of its parameters. -/
def descriptor (t : Tool Json) : Json :=
  .object [
    ("name".toText, .string t.name),
    ("type".toText, .string t.kind.typeName),
    ("version".toText, (t.kind.version.map Json.string).getD .null),
    ("description".toText, .string t.description),
    ("input_schema".toText, t.kind.schema)]

/-- The lines that describe a tool. -/
def description (t : Tool Json) : List Text :=
  ["Name: ".toText ++ t.name, "Type: ".toText ++ t.kind.typeName, "Version: ".toText ++ t.kind.version.getD "-".toText,
    [], t.description]

/-- The parameters of a run: the given input, else the text of the standard input, unless it is blank. -/
def runParameters (s : Surroundings) (input : Option Text) : Members :=
  let text := match input, s.input with
    | some t, _ => some t
    | none, .text t => some t.foldNewlines
    | none, .terminal => none
  match text with
  | some t => if t.isBlank then [] else [(inputName, .string t)]
  | none => []

/-- The log of a run as lines. -/
def logText (m : Medium) (level : LogLevel) (k : ToolKind) (log : List LogRecord) : Text :=
  (log.filter (LogRecord.shown level)).flatMap fun r => m.errorText (r.line k.logger) ++ "\n".toText

/-- The answer of a run. -/
def runTool (s : Surroundings) (level : LogLevel) (t : Tool Json) (input : Option Text) : Answer :=
  let parameters := runParameters s input
  let log := logText s.medium level t.kind (MonitorIntake.run parameters).log
  match t.kind.outcome parameters with
  | .ok response => Answer.writing s.medium log [response]
  | .error e => Answer.refusal s.medium log e.message

/-- The answer that a task has. -/
def perform (s : Surroundings) (level : LogLevel) : Task → Answer
  | .help c => Answer.success (Help.text s.page c) []
  | .version => Answer.success (s.page.program ++ ", version ".toText ++ version ++ "\n".toText) []
  | .nothing => ⟨2, [], Help.text s.page none, none, none⟩
  | .listTools => Answer.writing s.medium [] (ToolKind.all.map ToolKind.typeName)
  | .describe type config json =>
    match buildTool s type config with
    | .error a => a
    | .ok t =>
      Answer.writing s.medium [] (if json then [Json.indented Json.ascii 0 (descriptor t)] else description t)
  | .run type input config =>
    match buildTool s type config with
    | .error a => a
    | .ok t => runTool s level t input

/-- The answer to a command line, as it is written. -/
def written (s : Surroundings) (arguments : List Text) : Answer :=
  match Invocation.ofArguments arguments with
  | .error e => Answer.ofUsageError s.page s.medium e
  | .ok i => perform s i.level i.task

/-- The answer to a command line, as it is read back. -/
def answer (s : Surroundings) (arguments : List Text) : Answer := (written s arguments).readBack s.medium

end MonitorIntake.Cli
