import EventMarkup.Host
import EventMarkup.Log.Threshold
import EventMarkup.Outcome

/-!
# The log

A log shows the notices from a rank on, one line each, to the user and, if asked, at the end of a
file. A traced log shows everything, with time and origin. A file that cannot be opened is reported
and done without.
-/
namespace EventMarkup

structure Record where
  level : Level
  origin : String
  message : String
  deriving DecidableEq, Repr

def Notice.record (n : Notice) : Record := ⟨n.level, n.origin, n.message⟩

/-- A log. `lines` is what the user saw, the last line first. -/
structure Log where
  threshold : Int
  traced : Bool := false
  file : Option Place := none
  lines : List String := []

namespace Log

/-- The layout of a line, with placeholders. -/
def layout (traced : Bool) : String :=
  if traced then "[%(asctime)s] [%(levelname)s] [%(name)s] %(message)s"
  else "%(levelname)s: %(message)s"

def line (traced : Bool) (time : String) (r : Record) : String :=
  (if traced then "[" ++ time ++ "] [" ++ r.level.name ++ "] [" ++ r.origin ++ "] " ++ r.message
    else r.level.name ++ ": " ++ r.message) ++ "\n"

def shows (l : Log) (level : Level) : Bool := l.threshold ≤ level.rank

/-- Tells the log and its file one record. -/
def tell (time : String) (l : Log) (disk : Disk) (r : Record) : Log × Disk :=
  if l.shows r.level then
    let t := line l.traced time r
    ({ l with lines := t :: l.lines },
      match l.file with
      | none => disk
      | some place => disk.append place t.toUTF8.toList)
  else (l, disk)

def tellAll (time : String) (l : Log) (disk : Disk) : List Record → Log × Disk
  | [] => (l, disk)
  | r :: rest =>
    let (l, disk) := l.tell time disk r
    tellAll time l disk rest

def shown (l : Log) : String := String.join l.lines.reverse

/-! ## Setting up -/

/-- The rank from which on a log shows notices; a traced log shows details. -/
def rankFor (t : Threshold) (traced : Bool) : Except Fault Int :=
  if traced then .ok Level.debug.rank else t.resolve

/-- A log with a file, if that can be opened, and what the log is told about it. The file is found
by its full path, in which no `..` is left. -/
def attach (l : Log) (disk : Disk) (path : String) (host : Host := {}) : Log × Disk × Notice :=
  let full := Path.absolute disk.home path
  match host.find disk .openLog full with
  | .error cause => (l, disk, .loggingFailed path cause full)
  | .ok place => ({ l with file := some place }, disk.append place [], .loggingTo path)

/-- Sets a log up. An empty path asks for no file. -/
def configure (time : String) (disk : Disk) (t : Threshold) (path : Option String)
    (traced : Bool) (host : Host := {}) : Outcome Disk Log :=
  match rankFor t traced with
  | .error f => .fail disk f
  | .ok rank =>
    let l : Log := { threshold := rank, traced }
    match path with
    | none | some "" => .done disk l
    | some p =>
      if Path.hasNull p then .fail disk .nullInPath
      else
        let (l, disk, n) := l.attach disk p host
        let (l, disk) := l.tell time disk n.record
        .done disk l

end Log

end EventMarkup
