import EventMarkup.Host
import EventMarkup.Outcome
import EventMarkup.Text.LineEnding

/-!
# Sources

A page comes from a text at hand or from a file, which is decoded and whose line endings all become
line feeds.
-/
namespace EventMarkup

inductive Source where
  | text (t : String)
  | file (path : String)
  /-- A value of some other type. -/
  | unsupported (type : String)
  deriving DecidableEq, Repr

namespace Source

/-- The text of a file. The file is opened before the encoding is looked up, and read after that;
null characters are refused before either. -/
def fileText (disk : Disk) (path encoding : String) (host : Host := {}) : Except Fault String :=
  if Text.Charset.hasNull encoding then .error .nullInLabel
  else if Path.hasNull path then .error .nullInPath
  else match host.openInput disk path with
  | .error cause => .error (.unreadable (Path.normal path) cause)
  | .ok bytes =>
    match host.codec? encoding with
    | none => .error (.unknownEncoding encoding)
    | some codec =>
      match host.refuses .readInput path, codec.decode bytes with
      | some cause, _ => .error (.unreadable (Path.normal path) cause)
      | none, .ok t => .ok (Text.normalize .lf t)
      | none, .error (.refused reason) => .error (.undecoded reason)
      | none, .error e => .error (.unreadable (Path.normal path) (.undecodable e))

def read (disk : Disk) (encoding : String) (source : Source) (host : Host := {}) :
    Outcome Disk String :=
  match source with
  | text t => .done disk t
  | unsupported type => .fail disk (.unsupported "source" type)
  | file path =>
    match fileText disk path encoding host with
    | .error f => .fail disk f
    | .ok t => ⟨disk, [.fileRead t.length (Path.normal path)], .ok t⟩

end Source

end EventMarkup
