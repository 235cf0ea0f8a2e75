import EventMarkup.Proofs.Buffer

/-!
# The output of a run

What a run of events makes a sink write depends on its style and state alone (`Render.output`). If
the sink has an open buffer, all of it comes there: no event fails, and the text grows by the pieces
with their line endings made uniform (`Sink.Ready.run`).
-/
namespace EventMarkup

namespace Render

/-- The pieces that events make a sink write, one after the other. -/
def output (st : Style) (s : RenderState) : List Event → List String
  | [] => []
  | e :: es => (respond st s e).pieces ++ output st (transition st s e) es

/-- The state after events that were written. -/
def transitions (st : Style) (s : RenderState) (es : List Event) : RenderState :=
  es.foldl (transition st) s

theorem transitions_append (st : Style) (s : RenderState) (es fs : List Event) :
    transitions st s (es ++ fs) = transitions st (transitions st s es) fs := List.foldl_append

theorem output_append (st : Style) (s : RenderState) (es fs : List Event) :
    output st s (es ++ fs) = output st s es ++ output st (transitions st s es) fs := by
  induction es generalizing s with
  | nil => rfl
  | cons e es ih =>
    rw [List.cons_append, output, output, ih, List.append_assoc]
    rfl

/-- Whether each cell of a run finds its column. -/
def ColumnsFound (st : Style) (s : RenderState) : List Event → Prop
  | [] => True
  | e :: es => lookupFault? s e = none ∧ ColumnsFound st (transition st s e) es

theorem columnsFound_of_nonneg {st : Style} {s : RenderState} (h : 0 ≤ s.cellIndex)
    (es : List Event) : ColumnsFound st s es := by
  induction es generalizing s with
  | nil => trivial
  | cons e es ih => exact ⟨lookupFault?_none h e, ih (cellIndex_nonneg h e)⟩

theorem columnsFound_of_no_cell {st : Style} {s : RenderState} {es : List Event}
    (h : ∀ k m w, .cell k m w ∉ es) : ColumnsFound st s es := by
  induction es generalizing s with
  | nil => trivial
  | cons e es ih =>
    simp only [List.mem_cons, not_or] at h
    refine ⟨?_, ih fun k m w => (h k m w).2⟩
    cases e with
    | cell k m w => exact absurd rfl (h k m w).1
    | _ => rfl

end Render

namespace Sink

/-- Sent to a sink, an event writes some pieces: they go to the destination one after the other, up
to the first that fails there. -/
structure Writes (k : Sink) (e : Event) (ps : List String) : Prop where
  result : (k.event e).result = (sendAll k.style.lineEnding k.destination ps).result
  destination : (k.event e).after.destination =
    (sendAll k.style.lineEnding k.destination ps).after

theorem event_writes {k : Sink} {e : Event} (hv : k.vocabulary = .everything)
    (hl : Render.lookupFault? k.state e = none) :
    k.Writes e (Render.respond k.style k.state e).pieces := by
  have hperform := event_eq_perform hv hl
  simp only [perform] at hperform
  constructor <;> rw [hperform] <;> split <;> simp_all

/-- Outside of a head an event that belongs to the flow of a document writes its pieces. -/
theorem flow_writes {k : Sink} {e : Event} {s : RenderState} {ps : List String}
    (hv : k.vocabulary = .everything) (hs : k.state.headMode = false)
    (hl : Render.lookupFault? k.state e = none)
    (h : Render.respond k.style k.state e = .outsideHead k.state (.write s ps)) :
    k.Writes e ps := by
  have hwrites := event_writes hv hl
  rwa [h, Render.outsideHead_of_flow hs] at hwrites

/-- What an event writes comes into an open buffer. -/
theorem Writes.buffer {k : Sink} {e : Event} {ps : List String} (h : k.Writes e ps)
    (hb : k.destination.OpenBuffer) :
    (k.event e).result = .ok () ∧ (k.event e).after.destination.text =
      k.destination.text ++ String.join (ps.map (Text.normalize k.style.lineEnding)) := by
  obtain ⟨hr, -, ht⟩ := hb.sendAll k.style.lineEnding ps
  exact ⟨h.result.trans hr, by rw [h.destination, ht]⟩

/-- An event prints the pieces that it writes: it leaves them in an open buffer, behind what that
held, with their line endings made uniform. -/
structure Prints (k : Sink) (e : Event) (ps : List String) : Prop extends k.Writes e ps where
  text : k.destination.OpenBuffer → (k.event e).result = .ok () ∧
    (k.event e).after.destination.text =
      k.destination.text ++ String.join (ps.map (Text.normalize k.style.lineEnding))

theorem Writes.prints {k : Sink} {e : Event} {ps : List String} (h : k.Writes e ps) :
    k.Prints e ps := ⟨h, h.buffer⟩

/-- A piece without line endings is in the buffer as it is. -/
theorem Prints.one {k : Sink} {e : Event} {p : String} (h : k.Prints e [p])
    (hp : Text.normalize k.style.lineEnding p = p) (hb : k.destination.OpenBuffer) :
    (k.event e).result = .ok () ∧
      (k.event e).after.destination.text = k.destination.text ++ p := by
  simpa [hp] using h.text hb

theorem Writes.join_eq {k : Sink} {e : Event} {ps qs : List String} (h : k.Writes e ps)
    (h' : k.Writes e qs) (hb : k.destination.OpenBuffer) :
    String.join (ps.map (Text.normalize k.style.lineEnding)) =
      String.join (qs.map (Text.normalize k.style.lineEnding)) := by
  have hsame := (h.buffer hb).2.symm.trans (h'.buffer hb).2
  exact (String.append_right_inj _).mp hsame

/-- A sink that renders all events into an open buffer. -/
structure Ready (k : Sink) : Prop where
  vocabulary : k.vocabulary = .everything
  buffer : k.destination.OpenBuffer

theorem inMemory_ready (o : Options) : (inMemory o).Ready := ⟨rfl, rfl, rfl⟩

variable {k : Sink} (h : k.Ready)
include h

theorem Ready.value : k.value = .ok k.destination.text := by
  rw [Sink.value, Destination.value, h.buffer.channel]

theorem Ready.event {e : Event} (hl : Render.lookupFault? k.state e = none) :
    (k.event e).result = .ok () ∧ (k.event e).after.Ready ∧
      (k.event e).after.destination.text = k.destination.text ++
        String.join ((Render.respond k.style k.state e).pieces.map
          (Text.normalize k.style.lineEnding)) := by
  have hv : (k.event e).after.vocabulary = .everything := by
    rw [event_vocabulary, h.vocabulary]
  rw [event_eq_perform h.vocabulary hl] at hv ⊢
  obtain ⟨hr, ho, ht⟩ := h.buffer.perform (Render.respond k.style k.state e)
  exact ⟨hr, ⟨hv, ho⟩, ht⟩

/-- All events of a run go well, and their output comes into the buffer. -/
theorem Ready.run {es : List Event} (hc : Render.ColumnsFound k.style k.state es) :
    (∀ x ∈ steps Sink.event k es, x.outcome.result = .ok ()) ∧ (final Sink.event k es).Ready ∧
      (final Sink.event k es).destination.text = k.destination.text ++
        String.join ((Render.output k.style k.state es).map
          (Text.normalize k.style.lineEnding)) := by
  induction es generalizing k with
  | nil => exact ⟨fun _ hx => (List.not_mem_nil hx).elim, h, by simp [Render.output]⟩
  | cons e es ih =>
    obtain ⟨hfirst, hrest⟩ := hc
    obtain ⟨hr, hready, ht⟩ := h.event hfirst
    have hs := event_state hr
    have hst := event_style k e
    obtain ⟨hrs, hend, hte⟩ := ih hready (by rw [hs, hst]; exact hrest)
    rw [hs, hst, ht] at hte
    refine ⟨?_, hend, ?_⟩
    · rw [steps_cons, List.forall_mem_cons]
      exact ⟨hr, hrs⟩
    · rw [final_cons, hte, Render.output, List.map_append, String.join_append, String.append_assoc]

end Sink

end EventMarkup
