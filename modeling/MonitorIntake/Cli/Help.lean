import MonitorIntake.Cli.Command

/-!
# Help

The help of a line or of a command: its usage, what it does, and two columns with its options and commands. The second
column is filled up to the width of the page.
-/

namespace MonitorIntake.Cli

/-- Where help is shown: the name of the program and the width of the page. -/
structure Page where
  program : Text
  width : Nat

namespace Help

/-- The words of a text, each with the number of spaces before it; `gap` spaces and `word` have been read. -/
def splitWords (gap : Nat) (word : Text) : Text → List (Nat × Text)
  | [] => if word.isEmpty then [] else [(gap, word.reverse)]
  | c :: rest =>
    if c = ' ' then
      if word.isEmpty then splitWords (gap + 1) [] rest else (gap, word.reverse) :: splitWords 1 [] rest
    else splitWords gap (c :: word) rest

/-- Lines filled with words up to a width; `line` is the last line so far. -/
def fillFrom (width : Nat) (line : Text) : List (Nat × Text) → List Text
  | [] => if line.isEmpty then [] else [line]
  | (gap, word) :: rest =>
    if line.isEmpty then fillFrom width word rest
    else if line.length + gap + word.length ≤ width then fillFrom width (line ++ Text.spaces gap ++ word) rest
    else line :: fillFrom width word rest

/-- The lines of a text that are filled up to a width. -/
def fill (width : Nat) (t : Text) : List Text := fillFrom width [] (splitWords 0 [] t)

/-- The most columns of a term that stands beside its explanation. -/
def termLimit : Nat := 30

/-- A term and its explanation, which begins in the given column. -/
def entry (width column : Nat) (row : Text × Text) : Text :=
  let start := if row.1.length + 2 ≤ column then row.1 ++ Text.spaces (column - row.1.length)
    else row.1 ++ "\n".toText ++ Text.spaces (column + 2)
  let lines := fill (max (width - column - 2) 10) row.2
  Text.spaces 2 ++ start ++ Text.joinWith ("\n".toText ++ Text.spaces (column + 2)) lines ++ "\n".toText

/-- A heading and the terms under it with their explanations. -/
def definitions (width : Nat) (heading : Text) (rows : List (Text × Text)) : Text :=
  let column := min ((rows.map fun r => r.1.length).foldl max 0) termLimit + 2
  "\n".toText ++ heading ++ ":\n".toText ++ rows.flatMap (entry width column)

/-- An option with the word for its value. -/
def flagTerm (f : Flag) : Text :=
  match f.value with
  | some word => f.name ++ " ".toText ++ word
  | none => f.name

/-- What precedes the summary in a line of usage. -/
def path (p : Page) (c : Option Command) : Text :=
  match c with
  | some c => p.program ++ " ".toText ++ c.name
  | none => p.program

/-- The usage of a command, or that of the whole line. -/
def usageOf (c : Option Command) : Usage := (c.map Command.usage).getD lineUsage

/-- The line of usage. -/
def usageLine (p : Page) (c : Option Command) : Text :=
  "Usage: ".toText ++ path p c ++ " ".toText ++ (usageOf c).summary ++ "\n".toText

/-- The commands with what they do. -/
def commands (p : Page) (c : Option Command) : Text :=
  match c with
  | some _ => []
  | none => definitions p.width "Commands".toText (Command.all.map fun c => (c.name, c.about))

/-- The help of a command, or that of the whole line. -/
def text (p : Page) (c : Option Command) : Text :=
  let u := usageOf c
  usageLine p c ++ "\n".toText ++ Text.spaces 2 ++ u.about ++ "\n".toText ++
    definitions p.width "Options".toText (u.flags.map fun f => (flagTerm f, f.about)) ++ commands p c

end Help

end MonitorIntake.Cli
