import EventMarkup.Construct
import EventMarkup.Report

/-!
# Faults

Everything that an operation of the library can fail with, by cause, and the report of each.
-/
namespace EventMarkup

/-- Why an event, or the end of a document, is out of order. -/
inductive OrderFault where
  /-- The event must stand directly in one of the constructs. -/
  | misplaced (event : String) (parents : List Construct)
  /-- There is no open construct for the event to close. -/
  | notOpen (event : String) (construct : Construct)
  /-- Another construct was opened later and must be closed first. -/
  | closeFirst (event : String) (top : Construct)
  /-- The construct was opened with another level. -/
  | wrongLevel (event : String) (level : Int)
  /-- A table directly inside a table that has no rows yet. -/
  | tableInTable
  /-- A part with attributes inside a legacy figure. -/
  | attributedPart (event : String)
  /-- The sink is closed with open constructs, innermost first. -/
  | unclosed (constructs : List Construct)
  deriving DecidableEq, Repr

def OrderFault.report : OrderFault → Report
  | misplaced event parents =>
    .order event (some ("inside " ++ String.intercalate " or " (parents.map Construct.name))) none
  | notOpen event construct =>
    .order event none
      (some ("Unexpected sink event '" ++ event ++ "'; " ++ construct.name ++ " is not open"))
  | closeFirst event top => .order event (some (top.name ++ " to be closed first")) none
  | wrongLevel event level => .order event (some ("level " ++ toString level)) none
  | tableInTable => .order "table" (some "table_rows before another table") none
  | attributedPart event =>
    .order event none
      (some ("Sink event '" ++ event ++ "' with attributes cannot be mixed into a legacy figure"))
  | unclosed constructs =>
    .order "close"
      (some (String.intercalate ", " (constructs.map Construct.name) ++ " to be closed first")) none

/-- What a destination was doing when it failed. -/
inductive OutputAct where
  | write
  | flush
  | close
  deriving DecidableEq, Repr

/-- The message of a failed act, unless it is the usual one. -/
def OutputAct.message? : OutputAct → Option String
  | write => none
  | flush => some "Failed to flush output"
  | close => some "Failed to close output"

/-- A failure of an operation. -/
inductive Fault where
  /-- Text was sent to a closed sink. -/
  | closedSink
  /-- The destination failed. -/
  | output (path : Option String) (act : OutputAct) (cause : Cause)
  /-- An event was out of order. -/
  | order (o : OrderFault)
  /-- The whole text was asked of a sink that does not keep it. -/
  | notKept
  /-- No character set has this label. -/
  | unknownEncoding (label : String)
  /-- The octets of a file are refused as a whole. -/
  | undecoded (reason : String)
  /-- The sink does not know an event. -/
  | unknownEvent (sink event : String)
  /-- The current cell has no column. -/
  | noColumn (f : ColumnFault)
  /-- A path holds the null character. -/
  | nullInPath
  /-- The label of a character set holds the null character. -/
  | nullInLabel
  /-- A value of a type that cannot serve as output or source. -/
  | unsupported (role type : String)
  /-- A field of options is not valid. -/
  | options (f : OptionFault)
  /-- A sink was given options of another sink. -/
  | wrongOptions (sink expected received : String)
  /-- The command line asks for a line ending without naming one. -/
  | unnamedLineEnding
  /-- A field that only follows from others was set. -/
  | derivedField (holder field : String)
  /-- The options on the command line are not valid. -/
  | arguments (f : OptionFault)
  /-- An input cannot be read. -/
  | unreadable (path : String) (cause : Cause)
  /-- No reader accepts a line. -/
  | unparsed (line : Nat) (text : String)
  /-- A name is missing. -/
  | missingName (name : String)
  /-- An entry was asked of an empty set. -/
  | emptySet
  /-- There is no line to push back. -/
  | nothingToUnget
  /-- A text names no figure convention. -/
  | unknownConvention (text : String)
  /-- A text that is no level of notices serves as one. -/
  | unknownLevel (text : String)
  /-- A value that is neither a text nor a number serves as a level. -/
  | notALevel (shown : String)
  deriving DecidableEq, Repr

def Fault.report : Fault → Report
  | closedSink =>
    { kind := .rendering
      message := "Cannot write to a closed sink"
      renderingStage := some "output" }
  | output path act cause => .output path act.message? (some cause)
  | order o => o.report
  | notKept => .plain .type "getvalue() is only available when the sink writes to its own buffer"
  | unknownEncoding label => .plain .lookup ("unknown encoding: " ++ label)
  | undecoded reason => .plain .unicode reason
  | unknownEvent sink event =>
    .plain .attribute ("'" ++ sink ++ "' object has no attribute '" ++ event ++ "'")
  | noColumn f => .plain .index f.message
  | nullInPath => .plain .value "embedded null byte"
  | nullInLabel => .plain .value "embedded null character"
  | unsupported role type =>
    .plain .type ("Unsupported " ++ role ++ " type: <class '" ++ type ++ "'>")
  | options f => .plain .value f.message
  | unnamedLineEnding => .plain .type "unhashable type: 'list'"
  | derivedField holder field =>
    .plain .attribute
      ("property '" ++ field ++ "' of '" ++ holder ++ "' object has no setter")
  | wrongOptions sink expected received => .wrongOptions sink expected received none
  | arguments f =>
    { kind := .validation
      message := "Invalid options: " ++ f.message
      cause := some (.option f) }
  | unreadable path cause => .file path none (some cause)
  | unparsed line text =>
    { kind := .parsing
      message := "No block parser accepts line " ++ toString line ++ ": " ++ Text.quoted text
      parsingStage := some "block"
      lineNumber := some line }
  | missingName name => .plain .key (Text.quoted name)
  | emptySet => .plain .key ""
  | nothingToUnget => .plain .value "No line to unget"
  | unknownConvention text => .plain .value (Text.quoted text ++ " is not a valid FigureMode")
  | unknownLevel text => .plain .value ("Unknown level: " ++ Text.quoted text)
  | notALevel shown => .plain .type ("Level not an integer or a valid string: " ++ shown)

end EventMarkup
