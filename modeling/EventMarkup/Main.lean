import EventMarkup.Command.Run
import Std.Time

/-!
# The program

Reads the part of the file system that a run can see, runs, and carries out what the run leaves
behind.
-/
namespace EventMarkup.Command

def directoryExists (path : String) : IO Bool := do
  try
    discard <| IO.FS.realPath (path ++ "/.")
    return true
  catch _ => return false

/-- The octets of the file at a path, if there is one that can be read. -/
def fileOctets? (path : String) : IO (Option (List UInt8)) := do
  try
    return some (← IO.FS.readBinFile path).toList
  catch _ => return none

/-- The places on the way to a place, itself included. -/
def placesTo (p : Place) : List Place := (List.range (p.length + 1)).map p.take

/-- The places that a run with these settings may look at. -/
def placesOf (home : Place) (input : String) (s : Settings) : List Place :=
  ([some input, s.outputPath, s.logPath].filterMap id).flatMap fun path =>
    let start := if Path.isAbsolute path then [] else home
    placesTo (start ++ Path.components path) ++ placesTo (Path.place home path)

/-- The disk with what is found at a place. -/
def look (d : Disk) (place : Place) : IO Disk := do
  let path := Path.ofPlace place
  if ← directoryExists path then return d.addDirectory place
  match ← fileOctets? path with
  | some bytes => return d.put place bytes
  | none => return d

/-- What a run with these arguments can see of the file system. -/
def survey (arguments : List String) : IO Disk := do
  let home := Path.components (← IO.FS.realPath ".").toString
  match read arguments with
  | .run input s => (placesOf home input s).foldlM look { home }
  | _ => return { home }

/-- Writes the files that a run changed. -/
def carryOut (before after : Disk) : IO Unit := do
  for (place, bytes) in after.files do
    if before.octets? place != some bytes then
      IO.FS.writeBinFile (Path.ofPlace place) ⟨bytes.toArray⟩

def presentTime : IO String :=
  return (← Std.Time.PlainDateTime.now).format "uuuu-MM-dd HH:mm:ss"

def runProgram (arguments : List String) : IO UInt32 := do
  let disk ← survey arguments
  let result := run (← presentTime) disk arguments
  carryOut disk result.disk
  IO.print result.shown
  IO.eprint result.complaints
  match result.ending with
  | .exit code => return UInt32.ofNat code
  | .fault f =>
    IO.eprintln f.report.message
    return 1

end EventMarkup.Command

def main (arguments : List String) : IO UInt32 := EventMarkup.Command.runProgram arguments
