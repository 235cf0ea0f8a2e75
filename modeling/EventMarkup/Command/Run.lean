import EventMarkup.Command.Arguments
import EventMarkup.Log
import EventMarkup.Session
import EventMarkup.Source

/-!
# Runs of the command line

A run reads its arguments, sets up the log, and renders a page: the options are checked, then the
input is read, then the output is opened, so a run that fails before the last step leaves the output
as it was. Each of the library's errors has an exit code; any other fault ends the run as it is.
-/
namespace EventMarkup.Command

inductive Ending where
  | exit (code : Nat)
  | fault (f : Fault)
  deriving DecidableEq, Repr

/-- What a run leaves behind: `shown` goes to the standard output, `complaints` to the standard
error output. -/
structure Result where
  ending : Ending
  shown : String := ""
  complaints : String := ""
  disk : Disk

def usage : String :=
  "usage: docsink [options] input\n\noptions:\n" ++
    String.join (spellings.map fun e => "  " ++ e.1 ++ "\n")

def versionText : String := "docsink 1.0.0\n"

/-- A run in progress. -/
structure Progress where
  log : Log
  disk : Disk
  shown : String := ""

namespace Progress

/-- The run after its log was told of notices. -/
def note (time : String) (p : Progress) (ns : List Notice) : Progress :=
  let (log, disk) := p.log.tellAll time p.disk (ns.map Notice.record)
  { p with log, disk }

/-- The run after an operation on the disk, of which the log is told. -/
def through {α : Type} (time : String) (p : Progress) (r : Outcome Disk α) : Progress :=
  { p with disk := r.after }.note time r.notices

/-- The run after text went to where a sink sends it. -/
def deliver (p : Progress) (d : Destination) : Progress :=
  { p with disk := d.store p.disk, shown := p.shown ++ d.text }

end Progress

/-- Where the output of a run goes: to the standard output, or to a file if one is named. -/
def target (s : Settings) : Target :=
  match s.outputPath with
  | none => .stream .textLayer
  | some path => .file path

def outputName (s : Settings) : String := s.outputPath.getD "stdout"

/-- The session that renders a page. -/
def renderPage (k : Sink) (strict : Bool) (text : String) : Outcome Session Unit :=
  (Session.start k (if strict then 1 else 0)).page Wiki.BlockReader.usual text

/-- The fault of a page or, if its session could not be closed either, that of the session. -/
def lastFault (page closing : Except Fault Unit) : Except Fault Unit :=
  match closing with
  | .error f => .error f
  | .ok _ => page

/-- Renders a text with options. The session is closed whether or not the text could be rendered,
and all that was written arrives when it is. -/
def renderText (time : String) (p : Progress) (s : Settings) (o : Options) (text : String)
    (host : Host := {}) : Progress × Except Fault Unit :=
  let created := Sink.create p.disk .everything (some (.full o)) (target s) host
  let p := p.through time created
  match created.result with
  | .error f => (p, .error f)
  | .ok k =>
    let page := renderPage k s.strict text
    let closing := page.after.leave (page.result matches .error _)
    let p := (p.note time page.notices).deliver closing.after.sink.destination
    (p.note time closing.notices, lastFault page.result closing.result)

def render (time : String) (p : Progress) (input : String) (s : Settings) (host : Host := {}) :
    Progress × Except Fault Unit :=
  match s.options with
  | .error f => (p, .error f)
  | .ok o =>
    let source := (Source.file input).read p.disk o.encoding host
    let p := p.through time source
    match source.result with
    | .error f => (p, .error f)
    | .ok text =>
      let (p, r) := renderText time p s o text host
      match r with
      | .error f => (p, .error f)
      | .ok _ => (p.note time [.rendered input (outputName s)], .ok ())

def errorNotices (r : Report) : List Notice :=
  .failed r :: (r.cause.map Notice.causedBy).toList

def conclude (time : String) (p : Progress) (r : Except Fault Unit) : Result :=
  match r with
  | .ok _ => ⟨.exit 0, p.shown, p.log.shown, p.disk⟩
  | .error f =>
    if f.report.kind.isOwn then
      let p := p.note time (errorNotices f.report)
      ⟨.exit f.report.kind.exitCode, p.shown, p.log.shown, p.disk⟩
    else ⟨.fault f, p.shown, p.log.shown, p.disk⟩

/-- The threshold of the log. The lack of a word is no level that the log knows. -/
def threshold (s : Settings) : Log.Threshold :=
  .named (match s.logLevel with
    | some l => l.name
    | none => Word.nothing.toText)

/-- Sets up the log that the settings ask for and renders the input. -/
def perform (time : String) (disk : Disk) (input : String) (s : Settings) (host : Host := {}) :
    Result :=
  let setUp := Log.configure time disk (threshold s) s.logPath s.trace host
  match setUp.result with
  | .error f => { ending := .fault f, disk := setUp.after }
  | .ok log =>
    let (p, r) := render time { log, disk := setUp.after } input s host
    conclude time p r

/-- Runs the program with arguments at a time, on a disk and a host. -/
def run (time : String) (disk : Disk) (arguments : List String) (host : Host := {}) : Result :=
  match read arguments host with
  | .refused => { ending := .exit 2, complaints := usage, disk }
  | .help => { ending := .exit 0, shown := usage, disk }
  | .version => { ending := .exit 0, shown := versionText, disk }
  | .run input s => perform time disk input s host

end EventMarkup.Command
