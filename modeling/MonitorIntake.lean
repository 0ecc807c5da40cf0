import MonitorIntake.Cli.Answer
import MonitorIntake.Cli.Arguments
import MonitorIntake.Cli.Command
import MonitorIntake.Cli.Help
import MonitorIntake.Cli.Invocation
import MonitorIntake.Config
import MonitorIntake.Config.Datum
import MonitorIntake.Config.Files
import MonitorIntake.Config.Issue
import MonitorIntake.Config.Load
import MonitorIntake.Config.Path
import MonitorIntake.Contract
import MonitorIntake.Decimal.Basic
import MonitorIntake.Decimal.Binary
import MonitorIntake.Decimal.Layout
import MonitorIntake.Decimal.Shortest
import MonitorIntake.Extraction
import MonitorIntake.Host
import MonitorIntake.Json.Encodable
import MonitorIntake.Json.Literal
import MonitorIntake.Json.Reader
import MonitorIntake.Json.Value
import MonitorIntake.Json.Writer
import MonitorIntake.Main
import MonitorIntake.Report
import MonitorIntake.Text.Basic
import MonitorIntake.Text.Blank
import MonitorIntake.Text.Blocks
import MonitorIntake.Text.Cased
import MonitorIntake.Text.Console
import MonitorIntake.Text.Lowercase
import MonitorIntake.Text.Newline
import MonitorIntake.Text.Numeral
import MonitorIntake.Text.Printable
import MonitorIntake.Text.Quoted
import MonitorIntake.Text.Similarity
import MonitorIntake.Text.Utf8
import MonitorIntake.Tool
import MonitorIntake.Tool.Activity
import MonitorIntake.Tool.Failure
import MonitorIntake.Tool.Kind
import MonitorIntake.Tool.Log
import MonitorIntake.Tool.Run
import MonitorIntake.Version
import MonitorIntake.Yaml.Cursor
import MonitorIntake.Yaml.Fault
import MonitorIntake.Yaml.Node
import MonitorIntake.Yaml.Node.Compose
import MonitorIntake.Yaml.Scalar
import MonitorIntake.Yaml.Scalar.Binary
import MonitorIntake.Yaml.Scalar.Number
import MonitorIntake.Yaml.Source
import MonitorIntake.Yaml.Tag
import MonitorIntake.Yaml.Tag.Implicit
import MonitorIntake.Yaml.Timestamp
import MonitorIntake.Yaml.Token
import MonitorIntake.Yaml.Token.Block
import MonitorIntake.Yaml.Token.Plain
import MonitorIntake.Yaml.Token.Quoted
import MonitorIntake.Yaml.Token.Stream
import MonitorIntake.Yaml.Token.Tag
import MonitorIntake.Yaml.Value
import MonitorIntake.Proofs.Cli.Config
import MonitorIntake.Proofs.Cli.Describe
import MonitorIntake.Proofs.Cli.Presentation
import MonitorIntake.Proofs.Cli.Run
import MonitorIntake.Proofs.Config.Layout
import MonitorIntake.Proofs.Config.Loading
import MonitorIntake.Proofs.Config.Path
import MonitorIntake.Proofs.Config.Repair
import MonitorIntake.Proofs.Decimal.ReadBack
import MonitorIntake.Proofs.Decimal.Reduced
import MonitorIntake.Proofs.Host.Session
import MonitorIntake.Proofs.Intake.Acceptance
import MonitorIntake.Proofs.Intake.Delivery
import MonitorIntake.Proofs.Intake.FixedPoint
import MonitorIntake.Proofs.Intake.Index
import MonitorIntake.Proofs.Intake.Log
import MonitorIntake.Proofs.Intake.Outcome
import MonitorIntake.Proofs.Intake.PassThrough
import MonitorIntake.Proofs.Intake.Response
import MonitorIntake.Proofs.Intake.Strict
import MonitorIntake.Proofs.Json.Defects
import MonitorIntake.Proofs.Json.Distinct
import MonitorIntake.Proofs.Json.Grammar
import MonitorIntake.Proofs.Json.Indented
import MonitorIntake.Proofs.Json.Joined
import MonitorIntake.Proofs.Json.Limits
import MonitorIntake.Proofs.Json.LineEnds
import MonitorIntake.Proofs.Json.Literal
import MonitorIntake.Proofs.Json.Members
import MonitorIntake.Proofs.Json.Numerals
import MonitorIntake.Proofs.Json.Occurrence
import MonitorIntake.Proofs.Json.Reading
import MonitorIntake.Proofs.Json.RoundTrip
import MonitorIntake.Proofs.Json.Tokens
import MonitorIntake.Proofs.Json.Unambiguous
import MonitorIntake.Proofs.Json.WrittenAscii
import MonitorIntake.Proofs.Json.WrittenNumbers
import MonitorIntake.Proofs.Json.WrittenStrings
import MonitorIntake.Proofs.Report.Answer
import MonitorIntake.Proofs.Report.Embedded
import MonitorIntake.Proofs.Report.Source
import MonitorIntake.Proofs.Text.Console
import MonitorIntake.Proofs.Text.Digits
import MonitorIntake.Proofs.Text.LineEnds
import MonitorIntake.Proofs.Text.Pairs
import MonitorIntake.Proofs.Text.Printable
import MonitorIntake.Proofs.Text.Quoted
import MonitorIntake.Proofs.Tool.Configured
import MonitorIntake.Proofs.Tool.Settled
import MonitorIntake.Proofs.Yaml.Outline
import MonitorIntake.Proofs.Yaml.OutlineValue
import MonitorIntake.Proofs.Yaml.Read
import MonitorIntake.Proofs.Yaml.Scalars
import MonitorIntake.Proofs.Yaml.Scan
