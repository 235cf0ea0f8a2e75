import EventMarkup.Disk
import EventMarkup.Output.Codec
import EventMarkup.Output.Target

/-!
# Hosts

What a run finds around it and has no say in: the codecs beyond the six character sets, the files
that it may not open or that fail when they are read, and the devices behind what it writes to,
which may be full or broken. Nothing is assumed of a host; the usual one knows no further codec and
refuses nothing. A host is there for one run: the number of items sent tells how far the run has
come, so codecs and devices that remember other things than these items are among the hosts too.

Hosts also differ in what they make of a separator that is attached to a flag, as in `--output=--`:
older ones drop it, newer ones leave it to the flag as its word. The usual host is an older one.
-/
namespace EventMarkup

/-- What stands behind a file or a stream. It is asked at each write and each flush, and knows what
it has taken by then. -/
structure Device where
  refuses (sent : Array Item) (next : Item) : Option Cause := none
  refusesFlush (sent : Array Item) : Option Cause := none
  /-- The octets that a file has in the end, of those taken, if it cannot be flushed. -/
  left (bytes : List UInt8) : List UInt8 := bytes

/-- What can be refused to a run before it writes its output. -/
inductive FileAct where
  | openInput
  | readInput
  | openOutput
  | openLog
  deriving DecidableEq, Repr

structure Host where
  /-- Whether a flag loses a word that is the separator. -/
  dropsSeparator : Bool := true
  /-- The codecs beyond the six sets, by label. -/
  others (label : String) : Option Codec := none
  refuses (act : FileAct) (path : String) : Option Cause := none
  /-- What stands behind a file that is opened for output. -/
  file (path : String) : Device := {}
  /-- What stands behind a stream that is borrowed. -/
  stream (s : Stream) : Device := {}

namespace Host

variable (host : Host)

def codec? (label : String) : Option Codec := Codec.named? host.others label

/-- The place of a file, present or not, that can be opened at a path. -/
def find (disk : Disk) (act : FileAct) (path : String) : Except Cause Place :=
  match disk.find path, host.refuses act path with
  | .error cause, _ => .error cause
  | .ok _, some cause => .error cause
  | .ok place, none => .ok place

/-- The octets of the input at a path, if that can be opened. -/
def openInput (disk : Disk) (path : String) : Except Cause (List UInt8) :=
  match disk.read path, host.refuses .openInput path with
  | .error cause, _ => .error cause
  | .ok _, some cause => .error cause
  | .ok bytes, none => .ok bytes

end Host

end EventMarkup
