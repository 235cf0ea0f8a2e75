import EventMarkup.Cause

/-!
# Reports

The form in which every error leaves the library: its kind, its message and the particulars that the
kind has. The kinds of the library's own errors form a hierarchy, which settles the exit code of the
command line.
-/
namespace EventMarkup

/-- The kinds of errors. The last seven are mistakes in the use of a value rather than errors of
rendering. -/
inductive ReportKind where
  | general
  | validation
  | wrongOptions
  | file
  | parsing
  | rendering
  | output
  | order
  | value
  | type
  | key
  | index
  | lookup
  | attribute
  | unicode
  | other (label : String)
  deriving DecidableEq, Repr

namespace ReportKind

/-- The kind that a kind refines. -/
def parent? : ReportKind → Option ReportKind
  | validation | file | parsing | rendering => some general
  | wrongOptions => some validation
  | output | order => some rendering
  | _ => none

def isOwn : ReportKind → Bool
  | general | validation | wrongOptions | file | parsing | rendering | output | order => true
  | _ => false

/-- A kind of the library with the kinds that it refines, from itself upwards. -/
def lineage (k : ReportKind) : List ReportKind :=
  if k.isOwn then
    k :: match k.parent? with
      | none => []
      | some p => p :: p.parent?.toList
  else []

/-- The exit code of the command line for an error of this kind. -/
def exitCode (k : ReportKind) : Nat :=
  if k.lineage.contains validation then 3
  else if k.lineage.contains file then 4
  else if k.lineage.contains parsing then 6
  else if k.lineage.contains rendering then 7
  else 1

end ReportKind

/-- An error with its particulars. -/
structure Report where
  kind : ReportKind
  message : String
  parameterName : Option String := none
  parsingStage : Option String := none
  lineNumber : Option Int := none
  renderingStage : Option String := none
  filePath : Option String := none
  event : Option String := none
  expected : Option String := none
  sinkName : Option String := none
  cause : Option Cause := none
  deriving DecidableEq, Repr

namespace Report

/-- An error without particulars. -/
def plain (kind : ReportKind) (message : String) : Report := { kind, message }

/-- A sink that was given options of another sink. -/
def wrongOptions (sink expected received : String) (message : Option String) : Report :=
  { kind := .wrongOptions
    message := message.getD (sink ++ " expected options of type '" ++ expected ++
      "' but received '" ++ received ++ "'. Please provide the correct options type for the sink.")
    parameterName := some "options"
    sinkName := some sink }

/-- An input that cannot be read. -/
def file (path : String) (message : Option String) (cause : Option Cause) : Report :=
  { kind := .file
    message := message.getD ("Cannot read file: " ++ path)
    filePath := some path
    cause := cause }

/-- A destination that fails. An empty path is not named. -/
def output (path message : Option String) (cause : Option Cause) : Report :=
  { kind := .output
    message := message.getD ("Failed to write output" ++
      match path with
      | none => ""
      | some p => if p = "" then "" else ": " ++ p)
    renderingStage := some "output"
    filePath := path
    cause := cause }

/-- An event out of order. Empty expectations are not mentioned. -/
def order (event : String) (expected message : Option String) : Report :=
  { kind := .order
    message := message.getD ("Unexpected sink event '" ++ event ++ "'" ++
      match expected with
      | none => ""
      | some e => if e = "" then "" else "; expected " ++ e)
    renderingStage := some "event-order"
    event := some event
    expected := expected }

end Report

end EventMarkup
