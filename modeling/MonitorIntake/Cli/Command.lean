import MonitorIntake.Tool.Log

/-!
# Commands

The commands of the command line, and the options that each of them takes. The options before the command are those of
the whole line. A `Usage` has all that is needed to read the arguments and to write the help.
-/

namespace MonitorIntake.Cli

/-- A command. -/
inductive Command
  | describe
  | listTools
  | run
  deriving DecidableEq

/-- An option: its name, the word for its value if it has one, and what it is for. -/
structure Flag where
  name : Text
  value : Option Text
  about : Text

/-- What may be written on a command line, or in a part of it. -/
structure Usage where
  /-- What is written after the name of the program in the line of usage. -/
  summary : Text
  about : Text
  flags : List Flag
  /-- Options may also follow other arguments. -/
  isMixed : Bool

/-- The option for help. -/
def helpFlag : Flag := ⟨"--help".toText, none, "Show this message and exit.".toText⟩

/-- The option for a configuration. -/
def configFlag : Flag := ⟨"--config".toText, some "TEXT".toText, "Tool config YAML".toText⟩

/-- The name of a level as an option value. -/
def levelWord (l : LogLevel) : Text := l.name.map CodePoint.asciiLower

/-- The option for the level of the log. -/
def levelFlag : Flag :=
  ⟨"--log-level".toText, some (Text.between '[' ']' (Text.joinWith "|".toText (LogLevel.all.map levelWord))),
    "Logging level for tool diagnostics (written to stderr)  [default: WARNING]".toText⟩

/-- The usage of the whole line. -/
def lineUsage : Usage where
  summary := "[OPTIONS] COMMAND [ARGS]...".toText
  about := "OpenSearch agent tools - run and inspect agent tool plugins.".toText
  flags := [⟨"--version".toText, none, "Show the version and exit.".toText⟩, levelFlag, helpFlag]
  isMixed := false

namespace Command

/-- All commands, sorted by name. -/
def all : List Command := [describe, listTools, run]

/-- The name of a command. -/
def name : Command → Text
  | describe => "describe".toText
  | listTools => "list-tools".toText
  | run => "run".toText

/-- The command of a name. -/
def ofName? (t : Text) : Option Command := all.find? fun c => c.name == t

/-- The command is given the type of a tool. -/
def takesType : Command → Bool
  | listTools => false
  | _ => true

/-- What a command does. -/
def about : Command → Text
  | describe => "Show a tool's name, type, version and description.".toText
  | listTools => "List registered tool types.".toText
  | run => "Run a tool and print its response.".toText

/-- The options of a command. -/
def flags : Command → List Flag
  | describe =>
    [configFlag, ⟨"--json".toText, none, "Output descriptor and input schema".toText⟩, helpFlag]
  | listTools => [helpFlag]
  | run =>
    [⟨"--input".toText, some "TEXT".toText,
        "Value for the tool's 'input' parameter (reads stdin if omitted)".toText⟩,
      configFlag, helpFlag]

/-- The usage of a command. -/
def usage (c : Command) : Usage where
  summary := if c.takesType then "[OPTIONS] TOOL_TYPE".toText else "[OPTIONS]".toText
  about := c.about
  flags := c.flags
  isMixed := true

end Command

end MonitorIntake.Cli
