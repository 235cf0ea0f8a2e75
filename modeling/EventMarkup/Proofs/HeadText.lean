import EventMarkup.Proofs.PlainSession
import EventMarkup.Proofs.Simulation

/-!
# A head leaves its text behind and nothing else

In head mode the events of running text and of document structure write nothing: texts, line breaks
and spaces go to the head buffer, and the others have no effect at all. So a head full of such
events, in whatever order, comes down to a change of the head buffer.

No event reads that buffer. Whatever is asked of a session afterwards, it writes the same and ends
in the same state with one head buffer as with another.

* `Render.respond_flow`: what an event of running text or structure does in head mode.
* `Sink.final_head`: a head with such events only changes the head buffer.
* `Session.run_withHead`: sessions that differ in their head buffers alone stay so.
* `head_unseen`: the two together, for a head between any two runs.
-/
namespace EventMarkup

/-- Whether an event belongs to running text or to document structure: the events that a head keeps
from being written. -/
def Event.isFlow : Event → Bool
  | text .. | lineBreak _ | nonBreakingSpace | horizontalRule _ => true
  | sectionStart .. | sectionEnd _ | titleStart .. | titleEnd _ => true
  | elementStart .. | elementEnd _ | numberedList .. | numberedListEnd => true
  | verbatim .. | verbatimEnd | link .. | linkEnd | anchor .. | anchorEnd => true
  | _ => false

/-! ## Other head buffers -/

/-- The state with another head buffer. -/
def RenderState.withHead (s : RenderState) (buffer : List String) : RenderState :=
  { s with headBuffer := buffer }

def Reaction.withHead (r : Reaction) (buffer : List String) : Reaction :=
  { r with early := r.early.withHead buffer, late := r.late.withHead buffer }

def Sink.withHead (k : Sink) (buffer : List String) : Sink :=
  { k with state := k.state.withHead buffer }

def Session.withHead (s : Session) (buffer : List String) : Session :=
  { s with sink := s.sink.withHead buffer }

/-! ## Events in a head -/

/-- In head mode an event of running text or structure adds its text to the head buffer, if it has
one, and does nothing else. -/
theorem Render.respond_flow (st : Style) {s : RenderState} {e : Event} (he : e.isFlow = true)
    (hs : s.headMode = true) :
    respond st s e = .become (s.withHead (s.headBuffer ++ (headText? st e).toList)) := by
  have hnone : s.withHead (s.headBuffer ++ []) = s := by
    rw [List.append_nil]
    rfl
  cases e with
  | text | lineBreak | nonBreakingSpace =>
    simp only [respond, text, lineBreak, nonBreakingSpace, hs, if_true]
    rfl
  | comment | pageBreak | rawText | head | headEnd | table | tableEnd | tableRows | tableRowsEnd
  | tableRow | tableRowEnd | cell | cellEnd | tableCaption | tableCaptionEnd | figure | figureEnd
  | figureGraphics | figureCaption | figureCaptionEnd => cases he
  | _ =>
    simp only [respond, Reaction.outsideHead, hs, if_true, headText?, Option.toList_none, hnone]

section
variable {k : Sink} (hv : k.vocabulary = .everything)
include hv

theorem Sink.event_become {e : Event} {s : RenderState}
    (hl : Render.lookupFault? k.state e = none)
    (hr : Render.respond k.style k.state e = .become s) :
    k.event e = .done { k with state := s } () := by
  have hk : k.vocabulary.knows e = true := by rw [hv]; rfl
  simp only [event, hk, if_true, hl, hr]
  rfl

theorem Sink.event_flow {e : Event} (he : e.isFlow = true) (hs : k.state.headMode = true) :
    k.event e =
      .done (k.withHead (k.state.headBuffer ++ (Render.headText? k.style e).toList)) () := by
  have hl : Render.lookupFault? k.state e = none := by
    cases e with
    | cell => cases he
    | _ => rfl
  exact event_become hv hl (Render.respond_flow k.style he hs)

/-- In head mode such events add their texts to the head buffer, in order. -/
theorem Sink.final_flow {es : List Event} (hes : ∀ e ∈ es, e.isFlow = true)
    (hs : k.state.headMode = true) :
    final event k es =
      k.withHead (k.state.headBuffer ++ es.filterMap (Render.headText? k.style)) := by
  induction es generalizing k with
  | nil =>
    rw [final_nil, List.filterMap_nil, List.append_nil]
    rfl
  | cons e es ih =>
    rw [List.forall_mem_cons] at hes
    have htexts : (e :: es).filterMap (Render.headText? k.style) =
        (Render.headText? k.style e).toList ++ es.filterMap (Render.headText? k.style) := by
      cases h : Render.headText? k.style e <;> simp [h]
    rw [final_cons, event_flow hv hes.1 hs, htexts, ← List.append_assoc]
    -- vocabulary, style and mode are as they were before the event
    exact ih (k := k.withHead (k.state.headBuffer ++ _)) hv hes.2 hs

theorem Sink.final_head {es : List Event} (hes : ∀ e ∈ es, e.isFlow = true)
    (hs : k.state.headMode = false) :
    final event k (.head :: es ++ [.headEnd]) =
      k.withHead (es.filterMap (Render.headText? k.style)) := by
  let inside : Sink := { k with state := { k.state with headMode := true, headBuffer := [] } }
  have hstart : k.event .head = .done inside () := event_become hv rfl rfl
  have hinner : final event inside es = inside.withHead (es.filterMap (Render.headText? k.style)) :=
    final_flow (k := inside) hv hes rfl
  have hend (b : List String) : (inside.withHead b).event .headEnd = .done (k.withHead b) () := by
    have hmode : { (inside.withHead b).state with headMode := false } = k.state.withHead b := by
      rw [RenderState.withHead, ← hs]
      rfl
    rw [event_become (k := inside.withHead b) hv rfl rfl, hmode]
    rfl
  have hsplit : final event inside (es ++ [.headEnd]) =
      ((final event inside es).event .headEnd).after := List.foldl_append
  rw [List.cons_append, final_cons, hstart, Outcome.done, hsplit, hinner, hend]
  rfl

end

/-! ## No event reads the head buffer -/

/-- With another head buffer an event asks for the same, and leaves another head buffer. -/
theorem Render.respond_withHead (st : Style) (s : RenderState) (e : Event) (b : List String) :
    ∃ b', respond st (s.withHead b) e = (respond st s e).withHead b' := by
  obtain ⟨head, verbatim, columns, declared, index, even, pending, figure, caption, buffer⟩ := s
  cases e with
  | sectionStart n m | sectionEnd n | titleStart n m | titleEnd n =>
    refine ⟨b, ?_⟩
    cases head with
    | true => rfl
    | false =>
      simp only [respond, sectionStart, sectionEnd, titleStart, titleEnd, Reaction.outsideHead]
      cases inRange n <;> rfl
  | cellEnd => cases declared <;> exact ⟨_, rfl⟩
  | figure m => cases m <;> exact ⟨_, rfl⟩
  | figureGraphics source m | figureCaption m =>
    cases m <;> rcases figure with _ | _ | _ <;> exact ⟨_, rfl⟩
  | text | lineBreak | nonBreakingSpace | horizontalRule | elementStart | elementEnd | numberedList
  | numberedListEnd | verbatim | verbatimEnd | link | linkEnd | anchor | anchorEnd =>
    cases head <;> exact ⟨_, rfl⟩
  | _ => exact ⟨_, rfl⟩

theorem Render.lookupFault?_withHead (s : RenderState) (e : Event) (b : List String) :
    lookupFault? (s.withHead b) e = lookupFault? s e := by
  cases e <;> rfl

namespace Sink

theorem perform_withHead (k : Sink) (r : Reaction) (b b' : List String) :
    (k.withHead b).perform (r.withHead b') = (k.perform r).within (·.withHead b') := by
  have hsent : sendAll (k.withHead b).style.lineEnding (k.withHead b).destination
      (r.withHead b').pieces = sendAll k.style.lineEnding k.destination r.pieces := rfl
  simp only [perform, hsent]
  split <;> rfl

theorem event_withHead (k : Sink) (e : Event) (b : List String) :
    ∃ b', (k.withHead b).event e = (k.event e).within (·.withHead b') := by
  obtain ⟨b', hr⟩ := Render.respond_withHead k.style k.state e b
  have hstyle : (k.withHead b).style = k.style := rfl
  have hstate : (k.withHead b).state = k.state.withHead b := rfl
  have hvocabulary : (k.withHead b).vocabulary = k.vocabulary := rfl
  simp only [event, hstyle, hstate, hvocabulary, Render.lookupFault?_withHead, hr, perform_withHead]
  -- an event that never reaches its reaction keeps the buffer, others get the new one
  split
  · split
    · exact ⟨b, rfl⟩
    · exact ⟨b', rfl⟩
  · exact ⟨b, rfl⟩

/-- Whether two sinks differ in their head buffers alone. -/
def SameButHead (k k' : Sink) : Prop := ∃ b, k' = k.withHead b

/-- Nothing that a sink does depends on its head buffer. -/
theorem withHead_simulation : Simulation SameButHead where
  vocabulary := by
    rintro k _ ⟨b, rfl⟩
    rfl
  event := by
    rintro k _ ⟨b, rfl⟩ e
    obtain ⟨b', he⟩ := k.event_withHead e b
    rw [he]
    exact ⟨⟨b', rfl⟩, rfl, rfl⟩
  write := by
    rintro k _ ⟨b, rfl⟩ t
    exact ⟨⟨b, rfl⟩, rfl, rfl⟩
  flush := by
    rintro k _ ⟨b, rfl⟩
    exact ⟨⟨b, rfl⟩, rfl, rfl⟩
  close := by
    rintro k _ ⟨b, rfl⟩
    exact ⟨⟨b, rfl⟩, rfl, rfl⟩
  reset := by
    rintro k _ ⟨b, rfl⟩
    exact ⟨[], rfl⟩
  consume := by
    rintro ⟨vocabulary, options, destination, state⟩ _ ⟨b, rfl⟩
    cases vocabulary <;> exact ⟨_, rfl⟩

end Sink

namespace Session

theorem run_withHead (s : Session) (as : List Action) (b : List String) :
    ∃ b', (s.withHead b).run as = (s.run as).withHead b' := by
  have hover : s.Over Sink.SameButHead (s.withHead b) := ⟨rfl, b, rfl⟩
  obtain ⟨hguards, b', hsink⟩ := Sink.withHead_simulation.run hover as
  exact ⟨b', congr (congrArg Session.mk hguards) hsink⟩

end Session

/-! ## A head between two runs -/

/-- **A head is unseen in the body.** Let a session without guards be outside head mode after
anything that was asked of it, and send it a head full of events of running text and structure, in
whatever order. Then its state is as before but for the head buffer, which holds what the events
add: their texts as they are, a line ending for each line break and a blank for each space that does
not break. Whoever asks for the head text gets these in one, and whoever takes it leaves none.
Whatever is asked of the session afterwards, its buffer holds the same text with the head as
without it. -/
theorem head_unseen (o : Options) (before after : List Session.Action) (inner : List Event)
    (hinner : ∀ e ∈ inner, e.isFlow = true)
    (hout : ((Session.start (.inMemory o) 0).run before).sink.state.headMode = false) :
    let s := (Session.start (.inMemory o) 0).run before
    let h := s.run ((Event.head :: inner ++ [Event.headEnd]).map Session.Action.event)
    let texts := inner.filterMap (Render.headText? o.style)
    (h.run after).sink.value = (s.run after).sink.value ∧
      h.sink.state = { s.sink.state with headBuffer := texts } ∧
      (h.act .headText).result = .ok (.text (String.join texts)) ∧
      (h.act .consumeHead).result = .ok (.text (String.join texts)) ∧
      (h.act .consumeHead).after.sink.state.headBuffer = [] := by
  intro s h texts
  have hs : s.Plain o.style := (Session.start_plain o).run before
  have hh : h = s.withHead texts := by
    have hhead := Sink.final_head hs.vocabulary hinner hout
    rw [hs.style] at hhead
    have hguards := hs.guards
    have hrun : h = ⟨[], final Sink.event s.sink (.head :: inner ++ [.headEnd])⟩ := hs.run_events _
    rw [hrun, hhead, ← hguards]
    rfl
  have hv : h.sink.vocabulary.hasHead = true := by
    rw [hh, Session.withHead, Sink.withHead, hs.vocabulary]
    rfl
  have htext : h.sink.state.headText = String.join texts := by rw [hh]; rfl
  obtain ⟨b, hafter⟩ := s.run_withHead after texts
  refine ⟨?_, ?_, ?_, ?_, ?_⟩
  · rw [hh, hafter]
    rfl
  · rw [hh]
    rfl
  · simp only [Session.act, Session.ask, Sink.headText, hv, if_true, htext]
    rfl
  · simp only [Session.act, Session.onSink, Sink.consumeHead, hv, if_true, htext]
    rfl
  · simp only [Session.act, Session.onSink, Sink.consumeHead, hv, if_true]
    rfl

def unbalancedInner : List Event :=
  [.linkEnd, .verbatim ∅ true, .text "a<" ∅, .lineBreak ∅, .sectionStart 1 ∅, .text "b" ∅,
    .nonBreakingSpace]

theorem unbalancedInner_unseen :
    let s := (Session.start (.inMemory .usual) 0).run [.event (.elementStart .bold ∅)]
    let h := s.run ((Event.head :: unbalancedInner ++ [Event.headEnd]).map Session.Action.event)
    (h.run [.event (.text "c" ∅)]).sink.value = .ok "<b>c" ∧ h.sink.state.verbatimMode = false ∧
      (h.act .consumeHead).result = .ok (.text "a<\nb ") := by
  obtain ⟨hvalue, hstate, -, hhead, -⟩ :=
    head_unseen .usual [.event (.elementStart .bold ∅)] [.event (.text "c" ∅)] unbalancedInner
      (by decide) (by decide)
  have htexts : String.join (unbalancedInner.filterMap (Render.headText? Options.usual.style)) =
      "a<\nb " := by decide
  refine ⟨hvalue.trans (by decide), ?_, ?_⟩
  · rw [hstate]
    rfl
  · rw [hhead, htexts]

end EventMarkup
