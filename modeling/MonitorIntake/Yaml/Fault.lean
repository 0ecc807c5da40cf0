import MonitorIntake.Json.Reader
import MonitorIntake.Text.Quoted
import MonitorIntake.Text.Utf8

/-!
# Faults of YAML documents

A text may be no YAML document (`Fault`), a scalar may not denote a value of the type that its tag asks for
(`ScalarFault`), the bytes of a file may be no text, and a document may be nested too deeply. They are kept apart,
because only the first is a fault of the document as such.
-/

namespace MonitorIntake.Yaml

/-- What makes a text no YAML document. -/
inductive Fault
  | unprintable (c : CodePoint)
  | missingColon
  | entryPlace
  | keyPlace
  | valuePlace
  | tokenStart (c : CodePoint)
  | directiveName
  | directiveVersion
  | directiveLine
  | anchorName
  | tagHandle
  | tagEnd
  | uri
  | uriEscape
  | blockHeader
  | openQuote
  | quotedSeparator
  | unknownEscape
  | escapeDigits
  | contentMissing
  | blockEndMissing
  | flowCommaMissing
  | documentStartMissing
  | directiveTwice
  | versionUnsupported
  | handleTwice
  | handleUndefined (handle : Text)
  | aliasUndefined (name : Text)
  | anchorTwice (name : Text)
  | severalDocuments
  | tagUnknown (tag : Text)
  | scalarMissing
  | sequenceMissing
  | mappingMissing
  | singlePairMissing
  | keyUnhashable
  | mergeTarget
  | base64
  deriving DecidableEq

/-- The wording of a fault. -/
def Fault.message : Fault → Text
  | unprintable c => "unacceptable character ".toText ++ Text.quoted [c]
  | missingColon => "could not find expected ':'".toText
  | entryPlace => "sequence entries are not allowed here".toText
  | keyPlace => "mapping keys are not allowed here".toText
  | valuePlace => "mapping values are not allowed here".toText
  | tokenStart c => "found character ".toText ++ Text.quoted [c] ++ " that cannot start any token".toText
  | directiveName => "expected the name of a directive".toText
  | directiveVersion => "expected a version of two numbers".toText
  | directiveLine => "expected a comment or a line break after a directive".toText
  | anchorName => "expected the name of an anchor".toText
  | tagHandle => "expected a tag handle between exclamation marks".toText
  | tagEnd => "expected a space after a tag".toText
  | uri => "expected a URI".toText
  | uriEscape => "expected a URI escape of two hexadecimal digits".toText
  | blockHeader => "expected chomping or indentation indicators".toText
  | openQuote => "found unexpected end of a quoted scalar".toText
  | quotedSeparator => "found a document separator in a quoted scalar".toText
  | unknownEscape => "found unknown escape character".toText
  | escapeDigits => "expected hexadecimal digits of an escape".toText
  | contentMissing => "expected the content of a node".toText
  | blockEndMissing => "expected the end of a block".toText
  | flowCommaMissing => "expected a comma or the end of a flow collection".toText
  | documentStartMissing => "expected the start of a document".toText
  | directiveTwice => "found duplicate YAML directive".toText
  | versionUnsupported => "found incompatible YAML document".toText
  | handleTwice => "found duplicate tag handle".toText
  | handleUndefined handle => "found undefined tag handle ".toText ++ handle.quoted
  | aliasUndefined name => "found undefined alias ".toText ++ name.quoted
  | anchorTwice name => "found duplicate anchor ".toText ++ name.quoted
  | severalDocuments => "expected a single document".toText
  | tagUnknown tag => "could not determine a constructor for the tag ".toText ++ tag.quoted
  | scalarMissing => "expected a scalar node".toText
  | sequenceMissing => "expected a sequence".toText
  | mappingMissing => "expected a mapping".toText
  | singlePairMissing => "expected a mapping of length one".toText
  | keyUnhashable => "found unhashable key".toText
  | mergeTarget => "expected a mapping or list of mappings for merging".toText
  | base64 => "failed to decode base64 data".toText

/-- Why a scalar does not denote a value of the type of its tag. -/
inductive ScalarFault
  /-- No integer of the given base; the base of decimal digits is ten. -/
  | integer (base : Nat) (t : Text)
  | number (t : Text)
  | tooManyDigits (count : Nat)
  /-- There is no first character to look at. -/
  | noCharacter
  | truth (t : Text)
  | timestamp
  /-- A mapping in the place of the text of a timestamp. -/
  | timestampMapping
  | year (n : Nat)
  | month
  | day
  | hour
  | minute
  | second
  /-- A time zone a day or more away, in minutes. -/
  | offset (minutes : Int)
  /-- An escape above the last code point. -/
  | codePoint
  /-- An escape so large that it does not fit into 31 bits. -/
  | codePointSize
  /-- A sixtieth part whose place is beyond all doubles. -/
  | placeSize
  deriving DecidableEq

/-- A duration in minutes, as whole days and the seconds that are left. -/
def durationText (minutes : Int) : Text :=
  let days := minutes.fdiv 1440
  let seconds := minutes.fmod 1440 * 60
  let parts := (if days = 0 then [] else ["days=".toText ++ Text.ofInt days]) ++
    (if seconds = 0 then [] else ["seconds=".toText ++ Text.ofInt seconds])
  "datetime.timedelta(".toText ++
    (if parts.isEmpty then "0".toText else Text.joinWith ", ".toText parts) ++ ")".toText

/-- The wording of a fault. -/
def ScalarFault.message : ScalarFault → Text
  | integer base t =>
    "invalid literal for int() with base ".toText ++ Text.ofNat base ++ ": ".toText ++ t.quoted.take 200
  | number t => "could not convert string to float: ".toText ++ t.quoted
  | tooManyDigits count => (Json.ReadError.tooManyDigits count).message
  | noCharacter => "string index out of range".toText
  | truth t => t.quoted
  | timestampMapping => "expected string or bytes-like object, got 'list'".toText
  | timestamp => "'NoneType' object has no attribute 'groupdict'".toText
  | year n => "year ".toText ++ Text.ofNat n ++ " is out of range".toText
  | month => "month must be in 1..12".toText
  | day => "day is out of range for month".toText
  | hour => "hour must be in 0..23".toText
  | minute => "minute must be in 0..59".toText
  | second => "second must be in 0..59".toText
  | offset minutes =>
    ("offset must be a timedelta strictly between -timedelta(hours=24) and timedelta(hours=24), not ").toText ++
      durationText minutes ++ ".".toText
  | codePoint => "chr() arg not in range(0x110000)".toText
  | codePointSize => "Python int too large to convert to C int".toText
  | placeSize => "int too large to convert to float".toText

/-- The fault is that of a value of the right kind, and not of a kind that has no such value. -/
def ScalarFault.isValueError : ScalarFault → Bool
  | noCharacter | truth _ | timestamp | timestampMapping | codePointSize | placeSize => false
  | _ => true

/-- Why a text has no value. -/
inductive Error
  | malformed (f : Fault)
  | scalar (f : ScalarFault)
  | undecodable (e : Utf8Error)
  | tooDeep
  deriving DecidableEq

end MonitorIntake.Yaml
