import EventMarkup.Fault

/-!
# Notices

What the library tells its log: each notice has a level, the part of the program it comes from and
a message.
-/
namespace EventMarkup

inductive Level where
  | debug
  | info
  | warning
  | error
  | critical
  deriving DecidableEq, Repr

namespace Level

/-- The rank of a level: ten steps from one to the next. -/
def rank : Level → Int
  | debug => 10
  | info => 20
  | warning => 30
  | error => 40
  | critical => 50

def name : Level → String
  | debug => "DEBUG"
  | info => "INFO"
  | warning => "WARNING"
  | error => "ERROR"
  | critical => "CRITICAL"

end Level

/-- Something that happened and is worth a line in the log. -/
inductive Notice where
  | sinkCreated (path : Option String)
  | sectionIgnored (level : Int)
  | titleIgnored (level : Int)
  | tableDiscarded
  | figureStillOpen (convention : Convention)
  | released (destination : String)
  | closedUnbalanced (constructs : List Construct)
  | blocksParsed (count : Nat)
  | fileRead (characters : Nat) (path : String)
  | rendered (input output : String)
  | failed (report : Report)
  | causedBy (cause : Cause)
  | loggingTo (path : String)
  | loggingFailed (path : String) (cause : Cause) (place : String)
  deriving DecidableEq, Repr

namespace Notice

def level : Notice → Level
  | rendered .. => .info
  | failed .. => .error
  | loggingFailed .. => .warning
  | _ => .debug

/-- The part of the program that a notice comes from. -/
def origin : Notice → String
  | sinkCreated _ => "docsink.sinks.xhtml"
  | sectionIgnored _ | titleIgnored _ => "docsink.sinks.structure"
  | tableDiscarded => "docsink.sinks.tables"
  | figureStillOpen _ => "docsink.sinks.figures"
  | released _ => "docsink.utils.io_utils"
  | closedUnbalanced _ => "docsink.sinks.validating"
  | blocksParsed _ => "docsink.parsers.confluence"
  | fileRead .. => "docsink.parsers.source"
  | rendered .. | failed _ | causedBy _ => "docsink.cli"
  | loggingTo _ | loggingFailed .. => "root"

def message : Notice → String
  | sinkCreated path => "Created XHTML sink writing to " ++ path.getD "stream"
  | sectionIgnored level => "Ignoring section start with out-of-range level " ++ toString level
  | titleIgnored level => "Ignoring section title with out-of-range level " ++ toString level
  | tableDiscarded => "Discarding pending table attributes not consumed by table_rows()"
  | figureStillOpen c => "Figure started while a " ++ c.name ++ " figure is still open"
  | released destination => "Released output destination " ++ destination
  | closedUnbalanced constructs =>
    "Sink closed with open constructs: " ++ Text.quotedList (constructs.map Construct.name)
  | blocksParsed count => "Parsed " ++ toString count ++ " blocks"
  | fileRead characters path => "Read " ++ toString characters ++ " characters from " ++ path
  | rendered input output => "Rendered " ++ input ++ " to " ++ output
  | failed report => report.message
  | causedBy cause => "Caused by: " ++ cause.shown
  | loggingTo path => "Logging to file: " ++ path
  | loggingFailed path cause place =>
    "Could not create log file " ++ path ++ ": " ++ cause.atPath place

end Notice

end EventMarkup
