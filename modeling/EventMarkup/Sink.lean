import EventMarkup.Output.Destination
import EventMarkup.Render

/-!
# Sinks

A sink holds options, a render state and a destination. It answers an event by its reaction, whose
pieces go to the destination one by one with their line endings made uniform. It trusts the order of
the events.

Sinks differ in the events that they know: all of them, those of text only, or none.
-/
namespace EventMarkup

inductive SinkOptions where
  | basic (o : BasicOptions)
  | full (o : Options)

def SinkOptions.toBasic : SinkOptions → BasicOptions
  | basic o => o
  | full o => o.toBasicOptions

def SinkOptions.style : SinkOptions → Style
  | basic o => o.style
  | full o => o.style

/-- The attribute names that options allow in the scope with a name. Only options of a sink that
renders all events have scopes. -/
def SinkOptions.allowedIn (o : SinkOptions) (key : String) : Except Fault (List String) :=
  match o, Scope.ofKey? key with
  | full o, some s => .ok (o.allowed s)
  | full _, none => .error (.missingName key)
  | basic _, _ => .error (.unknownEvent "BaseSinkOptions" "allowed_attributes")

/-- Which events a sink knows. -/
inductive Vocabulary where
  | nothing
  | textual
  | everything
  deriving DecidableEq, Repr

namespace Vocabulary

def label : Vocabulary → String
  | nothing => "BaseSink"
  | textual => "BareSink"
  | everything => "XhtmlSink"

def knows (v : Vocabulary) (e : Event) : Bool :=
  match v with
  | nothing => false
  | textual => e.isTextual
  | everything => true

/-- Whether a sink with this vocabulary gives access to its head buffer. -/
def hasHead (v : Vocabulary) : Bool := v ≠ .nothing

end Vocabulary

/-- A sink. -/
structure Sink where
  vocabulary : Vocabulary
  options : SinkOptions
  destination : Destination
  state : RenderState := {}

namespace Sink

/-- The options of a sink that is given none, or the wrong kind of them. -/
def chooseOptions (v : Vocabulary) (given : Option SinkOptions) : Except Fault SinkOptions :=
  match v, given with
  | .everything, none => .ok (.full .usual)
  | .everything, some (.basic _) =>
    .error (.wrongOptions "xhtml" "XhtmlSinkOptions" "BaseSinkOptions")
  | _, none => .ok (.basic .usual)
  | _, some o => .ok o

/-- What the log is told about a new sink. -/
def creationNotices (v : Vocabulary) (d : Destination) : List Notice :=
  if v = .everything then [.sinkCreated d.path] else []

/-- A new sink. The options are checked before the destination is acquired. -/
def create (disk : Disk) (v : Vocabulary) (given : Option SinkOptions) (target : Target)
    (host : Host := {}) : Outcome Disk Sink :=
  match chooseOptions v given with
  | .error f => .fail disk f
  | .ok options =>
    (Destination.acquire disk target options.toBasic.encoding host).bind fun disk destination =>
      ⟨disk, creationNotices v destination, .ok { vocabulary := v, options, destination }⟩

/-- The style of a sink's markup. Only a sink that knows all events writes qualifiers. -/
def style (k : Sink) : Style :=
  if k.vocabulary = .everything then k.options.style
  else { k.options.style with qualifier := none }

/-! ## Writing -/

/-- Sends a text to a destination that must not be closed. -/
def send (e : Text.LineEnding) (d : Destination) (t : String) : Outcome Destination Unit :=
  if d.closed then .fail d .closedSink else d.write (Text.normalize e t)

/-- Sends pieces to a destination, up to the first that fails. -/
def sendAll (e : Text.LineEnding) (d : Destination) : List String → Outcome Destination Unit
  | [] => .done d ()
  | t :: rest => (send e d t).bind fun d _ => sendAll e d rest

/-- Writes a text as it is, but for its line endings. -/
def write (k : Sink) (t : String) : Outcome Sink Unit :=
  (send k.style.lineEnding k.destination t).within fun destination => { k with destination }

/-- Does what a reaction asks for. -/
def perform (k : Sink) (r : Reaction) : Outcome Sink Unit :=
  let sent := sendAll k.style.lineEnding k.destination r.pieces
  match sent.result with
  | .ok _ => ⟨{ k with state := r.late, destination := sent.after }, r.notices, .ok ()⟩
  | .error f => ⟨{ k with state := r.early, destination := sent.after }, r.notices, .error f⟩

/-- The fault of an event that the sink does not know. -/
def unknown (k : Sink) (event : String) : Fault := .unknownEvent k.vocabulary.label event

def event (k : Sink) (e : Event) : Outcome Sink Unit :=
  if k.vocabulary.knows e then
    match Render.lookupFault? k.state e with
    | some f => .fail k f
    | none => k.perform (Render.respond k.style k.state e)
  else .fail k (k.unknown e.name)

/-! ## The rest -/

def flush (k : Sink) : Outcome Sink Unit :=
  k.destination.flush.within fun destination => { k with destination }

def close (k : Sink) : Outcome Sink Unit :=
  k.destination.close.within fun destination => { k with destination }

def closed (k : Sink) : Bool := k.destination.closed

/-- All text written, if the sink writes to its own buffer. -/
def value (k : Sink) : Except Fault String := k.destination.value

def resetState (k : Sink) : Sink := { k with state := k.state.reset }

def headText (k : Sink) : Except Fault String :=
  if k.vocabulary.hasHead then .ok k.state.headText else .error (k.unknown "head_text")

/-- Takes the text collected in head mode out of the buffer. -/
def consumeHead (k : Sink) : Outcome Sink String :=
  if k.vocabulary.hasHead then .done { k with state := k.state.resetBuffer } k.state.headText
  else .fail k (k.unknown "consume_head_buffer")

end Sink

end EventMarkup
