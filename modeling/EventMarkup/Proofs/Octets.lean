import EventMarkup.Sink

/-!
# Writing octets

The octets of a text are those of its characters, one after the other, so texts that a character set
covers come to the octets of the whole (`Text.Charset.encodeChars_join`).

A destination that encodes every text on its own takes the texts it is sent in turn, up to the first
that the set does not cover: that text and the ones after it leave nothing behind
(`Destination.Encodes.sendAll`). A file is such a destination if the set has no mark, and so is a
stream of octets.
-/
namespace EventMarkup

/-! ## Character sets -/

namespace Text.Charset

variable (c : Charset)

/-- Whether a set has all characters of a text. -/
def covers (t : String) : Bool := (c.encodeChars t.toList).isSome

/-- The octets of a text that a set covers. -/
def octetsOf (t : String) : List UInt8 := (c.encodeChars t.toList).getD []

/-- The octets of texts, up to the first that a set does not cover. -/
def written (ts : List String) : List UInt8 := (ts.takeWhile c.covers).flatMap c.octetsOf

/-- What a set lacks of the first text that it does not cover. -/
def refused? (ts : List String) : Option Unencodable :=
  (ts.find? fun t => !c.covers t).map c.unencodable

theorem encodeChars_append {xs ys : List Char} {as bs : List UInt8}
    (hx : c.encodeChars xs = some as) (hy : c.encodeChars ys = some bs) :
    c.encodeChars (xs ++ ys) = some (as ++ bs) := by
  induction xs generalizing as with
  | nil =>
    cases hx
    exact hy
  | cons x xs ih =>
    simp only [encodeChars] at hx
    split at hx
    · rename_i first rest hfirst hrest
      cases hx
      simp only [List.cons_append, encodeChars, hfirst, ih hrest, List.append_assoc]
    · cases hx

theorem encodeChars_of_covers {t : String} (h : c.covers t = true) :
    c.encodeChars t.toList = some (c.octetsOf t) := by
  obtain ⟨bytes, hbytes⟩ := Option.isSome_iff_exists.mp h
  rw [octetsOf, hbytes, Option.getD_some]

theorem encode_eq (marked : Bool) (t : String) :
    c.encode marked t = if c.covers t then .ok ((if marked then c.mark else []) ++ c.octetsOf t)
      else .error (c.unencodable t) := by
  cases h : c.encodeChars t.toList <;> simp [encode, covers, octetsOf, h]

theorem codec_encode (sent : Array Item) (t : String) :
    c.codec.encode sent t =
      if c.covers t then .ok ((if sent.isEmpty then c.mark else []) ++ c.octetsOf t)
      else .error (.unencodable (c.unencodable t)) := by
  simp only [codec, encode_eq]
  cases c.covers t <;> rfl

/-- Texts that a set covers come to the octets of the whole. -/
theorem encodeChars_join {ts : List String} (h : c.refused? ts = none) :
    c.encodeChars (String.join ts).toList = some (c.written ts) := by
  induction ts with
  | nil => rfl
  | cons t ts ih =>
    cases ht : c.covers t with
    | false => simp [refused?, ht] at h
    | true =>
      have hrest : c.refused? ts = none := by simpa [refused?, ht] using h
      have hwritten : c.written (t :: ts) = c.octetsOf t ++ c.written ts := by simp [written, ht]
      rw [String.toList_join, List.flatMap_cons, hwritten]
      refine c.encodeChars_append (c.encodeChars_of_covers ht) ?_
      rw [← String.toList_join]
      exact ih hrest

end Text.Charset

/-! ## Destinations -/

/-- The answer of a destination to texts that hold something which cannot be encoded, or do not. -/
def Destination.answer (d : Destination) : Option Text.Unencodable → Except Fault Unit
  | none => .ok ()
  | some u => .error (d.failure .write (.unencodable u))

@[simp] theorem Destination.offer_usual (channel : Channel) (encoding : String) (closed : Bool)
    (sent : Array Item) (i : Item) : offer { channel, encoding, closed, sent } i = .ok i := rfl

/-- An open destination that encodes each text on its own, whatever it received before, and can be
released without a failure. -/
structure Destination.Encodes (c : Text.Charset) (d : Destination) : Prop where
  closed : d.closed = false
  flush (sent : Array Item) : { d with sent := sent }.flushFailure? = none
  item (sent : Array Item) (t : String) : { d with sent := sent }.item t =
    if c.covers t then .ok (.octets (c.octetsOf t))
    else .error (d.failure .write (.unencodable (c.unencodable t)))

namespace Destination

variable {c : Text.Charset}

theorem encodes_file (hmark : c.mark = []) (path : String) (place : Place) (label : String) :
    Encodes c { channel := .file path place c, encoding := label } := by
  refine ⟨rfl, fun _ => rfl, fun sent t => ?_⟩
  simp only [item, Bool.false_eq_true, if_false, c.codec_encode, hmark]
  cases c.covers t <;> simp [failure, Destination.path]

theorem encodes_memory {label : String} (hnull : Text.Charset.hasNull label = false)
    (hlabel : Text.Charset.ofLabel? label = some c) (hmark : c.mark = []) :
    Encodes c { channel := .stream .memoryOctets, encoding := label } := by
  refine ⟨rfl, fun _ => rfl, fun sent t => ?_⟩
  simp only [item, streamItem, Stream.memoryOctets, hnull, Codec.named?_of_label hlabel,
    c.codec_encode, hmark]
  cases c.covers t <;> simp [failure, Destination.path]

namespace Encodes

variable {d : Destination} (h : d.Encodes c)
include h

theorem keep (sent : Array Item) : Encodes c { d with sent := sent } :=
  ⟨h.closed, h.flush, fun later t => h.item later t⟩

theorem send (l : Text.LineEnding) (t : String) :
    Sink.send l d t =
      let u := Text.normalize l t
      if c.covers u then .done { d with sent := d.sent.push (.octets (c.octetsOf u)) } ()
      else .fail d (d.failure .write (.unencodable (c.unencodable u))) := by
  have hitem := h.item d.sent (Text.normalize l t)
  simp only [Sink.send, h.closed, Bool.false_eq_true, if_false, write, hitem]
  cases c.covers (Text.normalize l t) <;> rfl

theorem sendAll (l : Text.LineEnding) (ts : List String) :
    let us := ts.map (Text.normalize l)
    (Sink.sendAll l d ts).result = d.answer (c.refused? us) ∧
      ∃ sent, (Sink.sendAll l d ts).after = { d with sent := sent } ∧
        (Sink.sendAll l d ts).after.octets = d.octets ++ c.written us := by
  induction ts generalizing d with
  | nil => exact ⟨rfl, d.sent, rfl, (List.append_nil _).symm⟩
  | cons t ts ih =>
    have hsend := h.send l t
    cases hu : c.covers (Text.normalize l t) with
    | false =>
      -- nothing is sent after a text that is refused
      simp only [hu, Bool.false_eq_true, if_false] at hsend
      simp only [Sink.sendAll, hsend, Outcome.fail, Outcome.bind]
      refine ⟨by simp [Text.Charset.refused?, hu, answer], d.sent, rfl, ?_⟩
      simp [Text.Charset.written, hu]
    | true =>
      simp only [hu, if_true] at hsend
      obtain ⟨hresult, sent, hafter, hoctets⟩ := ih (h.keep (d.sent.push (.octets _)))
      simp only [Sink.sendAll, hsend, Outcome.done, Outcome.bind]
      refine ⟨?_, sent, hafter, ?_⟩
      · rw [hresult]
        simp [Text.Charset.refused?, hu]
        rfl
      · rw [hoctets]
        simp [Text.Charset.written, hu, octets, Item.bytes]

end Encodes

end Destination

/-- A sink over such a destination does what a reaction asks for, up to the first piece that cannot
be encoded. -/
theorem Destination.Encodes.perform {c : Text.Charset} {k : Sink} (h : k.destination.Encodes c)
    (r : Reaction) :
    let us := r.pieces.map (Text.normalize k.style.lineEnding)
    (k.perform r).result = k.destination.answer (c.refused? us) ∧
      (∃ sent, (k.perform r).after.destination = { k.destination with sent := sent }) ∧
      (k.perform r).after.destination.octets = k.destination.octets ++ c.written us ∧
      (k.perform r).after.state = if (c.refused? us).isSome then r.early else r.late := by
  intro us
  obtain ⟨hresult, sent, hafter, hoctets⟩ := h.sendAll k.style.lineEnding r.pieces
  cases hu : c.refused? us with
  | none | some =>
    simp only [us] at hu
    rw [hu, answer] at hresult
    simp only [Sink.perform, hresult]
    exact ⟨rfl, ⟨sent, hafter⟩, hoctets, rfl⟩

end EventMarkup
