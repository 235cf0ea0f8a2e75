import EventMarkup.Proofs.Reader
import EventMarkup.Proofs.Transition

/-!
# Writing to a buffer

An open buffer takes every piece with its line endings made uniform. So a sink with one never fails
for its destination, and how a reader of the buffer goes on is told by the pieces (`Shows.event`).
-/
namespace EventMarkup

namespace Reader

/-- Reads pieces of text one after the other. -/
def readAll (r : Reader) (ts : List String) : Option Reader := r.read (ts.flatMap String.toList)

@[simp] theorem readAll_nil (r : Reader) : r.readAll [] = some r := rfl

@[simp] theorem readAll_cons (r : Reader) (t : String) (ts : List String) :
    r.readAll (t :: ts) = (r.read t.toList).bind fun r => r.readAll ts := by
  rw [readAll, List.flatMap_cons, read_append]
  rfl

theorem readAll_singleton (r : Reader) (t : String) : r.readAll [t] = r.read t.toList := by
  rw [readAll, List.flatMap_singleton]

theorem readAll_append (r : Reader) (ts us : List String) :
    r.readAll (ts ++ us) = (r.readAll ts).bind fun r => r.readAll us := by
  rw [readAll, List.flatMap_append, read_append]
  rfl

theorem readAll_normalize (r : Reader) (e : Text.LineEnding) (ts : List String) :
    r.readAll (ts.map (Text.normalize e)) = r.readAll ts := by
  induction ts generalizing r with
  | nil => rfl
  | cons t ts ih =>
    rw [List.map_cons, readAll_cons, readAll_cons, read_normalize]
    exact congrArg _ (funext ih)

end Reader

/-- A buffer that has not been released. -/
structure Destination.OpenBuffer (d : Destination) : Prop where
  channel : d.channel = .buffer
  closed : d.closed = false

theorem Destination.OpenBuffer.send {d : Destination} (h : d.OpenBuffer) (e : Text.LineEnding)
    (t : String) :
    Sink.send e d t = .done { d with sent := d.sent.push (.text (Text.normalize e t)) } () := by
  simp [Sink.send, Destination.write, Destination.item, h.channel, h.closed]

theorem Destination.OpenBuffer.sendAll {d : Destination} (h : d.OpenBuffer) (e : Text.LineEnding)
    (ts : List String) :
    (Sink.sendAll e d ts).result = .ok () ∧ (Sink.sendAll e d ts).after.OpenBuffer ∧
      (Sink.sendAll e d ts).after.text = d.text ++ String.join (ts.map (Text.normalize e)) := by
  induction ts generalizing d with
  | nil => exact ⟨rfl, h, by simp [Sink.sendAll, Outcome.done]⟩
  | cons t ts ih =>
    obtain ⟨hr, ho, ht⟩ :=
      ih (d := { d with sent := d.sent.push (.text (Text.normalize e t)) }) ⟨h.channel, h.closed⟩
    simp only [Sink.sendAll, h.send e t, Outcome.done, Outcome.bind]
    refine ⟨hr, ho, ?_⟩
    rw [ht]
    simp [Destination.text, Item.chars, String.append_assoc]

theorem Destination.OpenBuffer.perform {k : Sink} (h : k.destination.OpenBuffer) (a : Reaction) :
    (k.perform a).result = .ok () ∧ (k.perform a).after.destination.OpenBuffer ∧
      (k.perform a).after.destination.text = k.destination.text ++
        String.join (a.pieces.map (Text.normalize k.style.lineEnding)) := by
  obtain ⟨hr, ho, ht⟩ := h.sendAll k.style.lineEnding a.pieces
  simp only [Sink.perform, hr]
  exact ⟨trivial, ho, ht⟩

/-- A sink with an open buffer, whose text takes a reader to `r`. -/
structure Sink.Shows (k : Sink) (r : Reader) : Prop where
  buffer : k.destination.OpenBuffer
  text : ({} : Reader).read k.destination.text.toList = some r

theorem Sink.inMemory_shows (o : Options) : (inMemory o).Shows {} := ⟨⟨rfl, rfl⟩, rfl⟩

/-- A reader that ends in text with no tag open has read well-nested markup. -/
theorem Sink.Shows.wellNested {k : Sink} (h : k.Shows {}) :
    ∃ t, k.value = .ok t ∧ WellNested t :=
  ⟨k.destination.text, by rw [Sink.value, Destination.value, h.buffer.channel], h.text⟩

theorem Sink.Shows.perform {k : Sink} {r r' : Reader} {a : Reaction} (h : k.Shows r)
    (hread : r.readAll a.pieces = some r') :
    (k.perform a).result = .ok () ∧ (k.perform a).after.Shows r' := by
  obtain ⟨hr, ho, ht⟩ := h.buffer.perform a
  refine ⟨hr, ho, ?_⟩
  rw [ht, String.toList_append, Reader.read_append, h.text, Option.bind_some, String.toList_join]
  exact (r.readAll_normalize _ _).trans hread

theorem Render.lookupFault?_none {s : RenderState} (h : 0 ≤ s.cellIndex) (e : Event) :
    lookupFault? s e = none := by
  cases e with
  | cell =>
    simp only [lookupFault?]
    split
    · rfl
    · rename_i f hf
      unfold RenderState.currentJustification Columns.entryAt at hf
      simp only [h, if_true] at hf
      repeat' split at hf
      all_goals cases hf
  | _ => rfl

theorem Sink.event_eq_perform {k : Sink} {e : Event} (hv : k.vocabulary = .everything)
    (hl : Render.lookupFault? k.state e = none) :
    k.event e = k.perform (Render.respond k.style k.state e) := by
  simp [Sink.event, hv, Vocabulary.knows, hl]

/-- An event goes well on a sink with an open buffer, and takes a reader of the buffer as far as the
pieces do that the event writes. -/
theorem Sink.Shows.event {k : Sink} {r r' : Reader} {e : Event} (h : k.Shows r)
    (hv : k.vocabulary = .everything) (hc : 0 ≤ k.state.cellIndex)
    (hread : r.readAll (Render.respond k.style k.state e).pieces = some r') :
    (k.event e).result = .ok () ∧ (k.event e).after.Shows r' := by
  rw [Sink.event_eq_perform hv (Render.lookupFault?_none hc e)]
  exact h.perform hread

end EventMarkup
