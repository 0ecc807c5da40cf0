import MonitorIntake.Cli.Answer

/-!
# The program

The command line as a program: it finds out what surrounds it, and prints the answer.
-/

namespace MonitorIntake.Program

/-- The name of the program. -/
def name : Text := "opensearch-agent-tools".toText

/-- The columns of help: those of a terminal without a margin. -/
def width : Nat := 78

/-- The environment variable that names a configuration. -/
def configVariable : String := "OPENSEARCH_AGENT_TOOLS_CONFIG"

/-- The bytes of a stream up to its end. -/
partial def readAll (s : IO.FS.Stream) (done : ByteArray) : IO ByteArray := do
  let more ← s.read 65536
  if more.isEmpty then return done
  readAll s (done ++ more)

/-- The text of the standard input, unless that is a terminal. -/
def standardInput : IO StandardInput := do
  let s ← IO.getStdin
  if ← s.isTty then return .terminal
  match Text.ofUtf8 (← readAll s ByteArray.empty).toList with
  | .ok t => return .text t
  | .error e => throw (IO.userError (Text.toString e.message))

/-- What lies at a path. -/
def find (p : Path) : IO Found := do
  try
    return .entry (.file (← IO.FS.readBinFile (Text.toString p.text)).toList)
  catch
    | .noFileOrDirectory _ _ _ => return .missing
    | .inappropriateType _ 21 _ => return .entry .directory
    | .inappropriateType _ _ _ => return .missing
    | .invalidArgument _ 36 _ => return .tooLong
    | e => throw e

/-- The path of the configuration that a line needs. -/
def neededPath (environment : Option Text) (arguments : List Text) : Path :=
  match Cli.Invocation.ofArguments arguments with
  | .ok ⟨_, .describe _ config _⟩ | .ok ⟨_, .run _ _ config⟩ => Cli.configPath config environment
  | _ => Cli.configPath none environment

/-- The line reads the standard input. -/
def readsInput (arguments : List Text) : Bool :=
  match Cli.Invocation.ofArguments arguments with
  | .ok ⟨_, .run _ none _⟩ => true
  | _ => false

/-- The answer to the arguments of the program. -/
def answer (arguments : List Text) : IO Cli.Answer := do
  let environment := (← IO.getEnv configVariable).map String.toText
  let input ← if readsInput arguments then standardInput else pure .terminal
  let found ← find (neededPath environment arguments)
  return Cli.answer ⟨⟨name, width⟩, .text, environment, input, fun _ => found⟩ arguments

/-- What is said about a command that was broken off. -/
def breakText : Cli.Break → Text
  | .config e => e.message
  | .output => "The output has half of a surrogate pair in it.".toText

/-- All that goes to the error stream. -/
def errorText (a : Cli.Answer) : Text :=
  a.errors ++ (a.broken.map fun b => breakText b ++ "\n".toText).getD []

end MonitorIntake.Program

/-- Prints the answer to the arguments. -/
def main (arguments : List String) : IO UInt32 := do
  let a ← MonitorIntake.Program.answer (arguments.map String.toText)
  (← IO.getStdout).putStr (MonitorIntake.Text.toString a.output)
  (← IO.getStderr).putStr (MonitorIntake.Text.toString (MonitorIntake.Program.errorText a))
  return a.exitCode.toUInt32
