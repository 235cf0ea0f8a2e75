import EventMarkup.Host
import EventMarkup.Outcome

/-!
# Destinations

A destination is acquired from a target, written to, flushed and released once. Its own buffer and
the files it opened are closed on release; a borrowed stream is only flushed and stays usable.

A stream of octets gets every text encoded on its own, mark included. A file is one encoded stream
with one mark at its start. A text that cannot be encoded contributes nothing, and neither does one
that the device behind a file or a stream refuses.
-/
namespace EventMarkup

/-- What stands behind a destination. -/
inductive Channel where
  | buffer
  | file (path : String) (place : Place) (codec : Codec)
  | stream (s : Stream)

/-- A place for text to go. `sent` is what the target received, in order. -/
structure Destination where
  channel : Channel
  encoding : String
  device : Device := {}
  /-- The codecs beyond the six sets that the encoding may name, if texts are encoded one by one. -/
  others (label : String) : Option Codec := none
  closed : Bool := false
  sent : Array Item := #[]

namespace Destination

def path (d : Destination) : Option String :=
  match d.channel with
  | .file path .. => some path
  | _ => none

/-- What the log calls a destination. -/
def label (d : Destination) : String :=
  match d.channel with
  | .buffer => "StringIO"
  | .file path .. => path
  | .stream s => s.label

def text (d : Destination) : String := String.join (d.sent.toList.map Item.chars)

def octets (d : Destination) : List UInt8 := d.sent.toList.flatMap Item.bytes

/-! ## Acquiring -/

/-- The destination of a target. A file is emptied, or created, before the encoding is looked up;
null characters are refused before either. -/
def acquire (disk : Disk) (target : Target) (encoding : String) (host : Host := {}) :
    Outcome Disk Destination :=
  match target with
  | .buffer => .done disk { channel := .buffer, encoding }
  | .stream s =>
    .done disk
      { channel := .stream s, encoding, device := host.stream s, others := host.others }
  | .unsupported type => .fail disk (.unsupported "output" type)
  | .file path =>
    if Text.Charset.hasNull encoding then .fail disk .nullInLabel
    else if Path.hasNull path then .fail disk .nullInPath
    else match host.find disk .openOutput path with
    | .error cause => .fail disk (.output (some path) .write cause)
    | .ok place =>
      match host.codec? encoding with
      | none => .fail (disk.put place []) (.unknownEncoding encoding)
      | some codec => .done (disk.put place [])
          { channel := .file path place codec, encoding, device := host.file path }

/-! ## Writing -/

def failure (d : Destination) (act : OutputAct) (cause : Cause) : Fault :=
  .output d.path act cause

/-- An item, unless the device refuses it. -/
def offer (d : Destination) (i : Item) : Except Fault Item :=
  match d.device.refuses d.sent i with
  | some cause => .error (d.failure .write cause)
  | none => .ok i

/-- The item that a text becomes on a stream. -/
def streamItem (d : Destination) (s : Stream) (t : String) : Except Fault Item :=
  if s.binary then
    if Text.Charset.hasNull d.encoding then .error (d.failure .write .nullInLabel)
    else match Codec.named? d.others d.encoding with
    | none => .error (.unknownEncoding d.encoding)
    | some codec =>
      match codec.encode #[] t with
      | .ok bytes => .ok (.octets bytes)
      | .error cause => .error (d.failure .write cause)
  else .ok (.text t)

/-- The item that a text becomes, or why it cannot be written. -/
def item (d : Destination) (t : String) : Except Fault Item :=
  match d.channel with
  | .buffer => if d.closed then .error (d.failure .write .closed) else .ok (.text t)
  | .file _ _ codec =>
    if d.closed then .error (d.failure .write .closed)
    else match codec.encode d.sent t with
      | .ok bytes => d.offer (.octets bytes)
      | .error cause => .error (d.failure .write cause)
  | .stream s =>
    match d.streamItem s t, s.writeFailure with
    | .error f, _ => .error f
    | .ok _, some cause => .error (d.failure .write cause)
    | .ok i, none => d.offer i

def write (d : Destination) (t : String) : Outcome Destination Unit :=
  match d.item t with
  | .ok i => .done { d with sent := d.sent.push i } ()
  | .error f => .fail d f

/-! ## Flushing and releasing -/

/-- Why the destination cannot be flushed, if it is open. -/
def flushFailure? (d : Destination) : Option Cause :=
  match d.channel with
  | .buffer => none
  | .file .. => d.device.refusesFlush d.sent
  | .stream s => s.flushFailure.or (d.device.refusesFlush d.sent)

/-- Passes on what has been written. A file cannot be flushed once it is closed. -/
def flush (d : Destination) : Outcome Destination Unit :=
  match d.channel, d.closed with
  | .file .., true => .fail d (d.failure .flush .closed)
  | _, _ => .ofFault? d (d.flushFailure?.map (d.failure .flush))

/-- Releases the destination, once; it is released also if that fails. -/
def close (d : Destination) : Outcome Destination Unit :=
  if d.closed then .done d ()
  else match d.flushFailure? with
    | some cause => .fail { d with closed := true } (d.failure .close cause)
    | none => ⟨{ d with closed := true }, [.released d.label], .ok ()⟩

/-- All text received, if the destination is its own buffer. -/
def value (d : Destination) : Except Fault String :=
  match d.channel with
  | .buffer => .ok d.text
  | _ => .error .notKept

/-- The disk with the octets of a file written to it, or with those that are left. -/
def store (d : Destination) (disk : Disk) : Disk :=
  match d.channel with
  | .file _ place _ =>
    disk.overwrite place (if d.flushFailure?.isSome then d.device.left d.octets else d.octets)
  | _ => disk

end Destination

end EventMarkup
