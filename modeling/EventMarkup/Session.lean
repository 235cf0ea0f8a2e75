import EventMarkup.Guard
import EventMarkup.Sink
import EventMarkup.Wiki.Page

/-!
# Sessions

A session is a sink under any number of guards. An event passes the guards from the outermost to the
innermost and reaches the sink if none refuses it. Closing starts at the sink; each guard then
complains about constructs left open.
-/
namespace EventMarkup

/-- A sink under guards, the outermost first. -/
structure Session where
  guards : List Guard
  sink : Sink

namespace Session

def start (k : Sink) (guards : Nat) : Session := ⟨List.replicate guards [], k⟩

/-- What the outermost layer of a session is called. -/
def label (s : Session) : String :=
  if s.guards.isEmpty then s.sink.vocabulary.label else "ValidatingSink"

/-- The names of the open constructs that the outermost guard knows, outermost first. -/
def openConstructs (s : Session) : Except Fault (List String) :=
  match s.guards with
  | [] => .error (s.sink.unknown "open_constructs")
  | g :: _ => .ok g.names

/-! ## Events -/

/-- Whether a guard checks an event before it asks what lies below for it. -/
def checksFirst : Event → Bool
  | .table _ | .figure _ | .figureGraphics .. | .figureCaption _ => true
  | _ => false

/-- Sends an event through guards to a sink. -/
def pass (e : Event) (k : Sink) : List Guard → Outcome Session Unit
  | [] => (k.event e).within fun k => ⟨[], k⟩
  | g :: gs =>
    if checksFirst e || k.vocabulary.knows e then
      match g.accept e with
      | .error f => .fail ⟨g :: gs, k⟩ (.order f)
      | .ok g' => (pass e k gs).within fun s => { s with guards := g' :: s.guards }
    else .fail ⟨g :: gs, k⟩ (k.unknown e.name)

def event (s : Session) (e : Event) : Outcome Session Unit := pass e s.sink s.guards

/-- Sends events up to the first that fails. -/
def events (s : Session) : List Event → Outcome Session Unit
  | [] => .done s ()
  | e :: rest => (s.event e).bind fun s _ => events s rest

/-- Reads a page and sends the events of its blocks. Nothing is sent of a page that cannot be
read. -/
def page (s : Session) (readers : List Wiki.BlockReader) (text : String) :
    Outcome Session Unit :=
  match Wiki.readBlocks readers (.ofText text) with
  | .error f => .fail s f
  | .ok (blocks, _) =>
    (⟨s, [.blocksParsed blocks.length], .ok ()⟩ : Outcome Session Unit).bind fun s _ =>
      s.events (Wiki.events blocks)

/-! ## Closing -/

/-- Closes a sink under guards; the innermost guard with open constructs complains. -/
def closeUnder (k : Sink) : List Guard → Outcome Session Unit
  | [] => k.close.within fun k => ⟨[], k⟩
  | g :: gs =>
    (closeUnder k gs).within (fun s => { s with guards := g :: s.guards }) |>.bind fun s _ =>
      match g.endFault? with
      | none => .done s ()
      | some f => ⟨s, g.endNotices, .error (.order f)⟩

def close (s : Session) : Outcome Session Unit := closeUnder s.sink s.guards

/-- Ends the use of the session as a scope. If the scope failed, the outermost guard lets its
constructs be. -/
def leave (s : Session) (failed : Bool) : Outcome Session Unit :=
  match failed, s.guards with
  | true, g :: gs => (closeUnder s.sink gs).within fun s => { s with guards := g :: s.guards }
  | _, _ => s.close

/-! ## Actions -/

/-- What can be asked of a session. -/
inductive Action where
  | event (e : Event)
  | write (text : String)
  | flush
  | close
  | value
  | closed
  | state
  | options
  | openConstructs
  | headText
  | consumeHead
  | resetState
  | enter
  | leave (failed : Bool)
  | page (text : String)
  | unknown (name : String)

inductive Answer where
  | nothing
  | text (t : String)
  | truth (b : Bool)
  | names (l : List String)
  | state (s : RenderState)
  | options (o : SinkOptions)
  | session (label : String)

/-- The outcome of an operation on the sink alone. -/
def onSink {α : Type} (s : Session) (r : Outcome Sink α) (answer : α → Answer) :
    Outcome Session Answer :=
  (r.within fun sink => { s with sink }).map answer

/-- The outcome of a question that changes nothing. -/
def ask {α : Type} (s : Session) (r : Except Fault α) (answer : α → Answer) :
    Outcome Session Answer :=
  ⟨s, [], r.map answer⟩

def act (s : Session) : Action → Outcome Session Answer
  | .event e => (s.event e).map fun _ => .nothing
  | .write t => s.onSink (s.sink.write t) fun _ => .nothing
  | .flush => s.onSink s.sink.flush fun _ => .nothing
  | .close => s.close.map fun _ => .nothing
  | .value => s.ask s.sink.value .text
  | .closed => .done s (.truth s.sink.closed)
  | .state => .done s (.state s.sink.state)
  | .options => .done s (.options s.sink.options)
  | .openConstructs => s.ask s.openConstructs .names
  | .headText => s.ask s.sink.headText .text
  | .consumeHead => s.onSink s.sink.consumeHead .text
  | .resetState => .done { s with sink := s.sink.resetState } .nothing
  | .enter => .done s (.session s.label)
  | .leave failed => (s.leave failed).map fun _ => .nothing
  | .page t => (s.page Wiki.BlockReader.usual t).map fun _ => .nothing
  | .unknown name => .fail s (s.sink.unknown name)

/-- Does one action after the other, failed ones included. -/
def run (s : Session) : List Action → Session
  | [] => s
  | a :: rest => run (s.act a).after rest

end Session

end EventMarkup
