import EventMarkup.Cause

/-!
# Targets

Where a sink is told to write: its own buffer, a file that it opens, or a stream that it borrows. A
borrowed stream takes text or octets and may fail at every write or flush.
-/
namespace EventMarkup

/-- A stream that somebody else opened. `label` is what the log calls it. -/
structure Stream where
  label : String
  binary : Bool := false
  writeFailure : Option Cause := none
  flushFailure : Option Cause := none
  deriving DecidableEq, Repr

/-- What a sink can be told to write to. -/
inductive Target where
  | buffer
  | file (path : String)
  | stream (s : Stream)
  /-- A value of some other type. -/
  | unsupported (type : String)
  deriving DecidableEq, Repr

namespace Stream

/-- Whether a stream of a kind that does not tell takes octets: a mode with a `b` says so. -/
def modeIsBinary : Option String → Bool
  | none => false
  | some mode => mode.toList.contains 'b'

def memoryText : Stream := { label := "StringIO" }

def memoryOctets : Stream := { label := "BytesIO", binary := true }

def textLayer : Stream := { label := "TextIOWrapper" }

def openFile : Stream := { label := "BufferedWriter", binary := true }

/-- A text stream in memory that is closed already; flushing it does no harm. -/
def closedText : Stream := { memoryText with writeFailure := some .closed }

def closedOctets : Stream :=
  { memoryOctets with writeFailure := some .closed, flushFailure := some .closed }

end Stream

end EventMarkup
