import EventMarkup.Proofs.Transition
import EventMarkup.Session

/-!
# Sessions without guards

A session without guards over a sink that renders all events is that sink: an event reaches it as it
is (`Session.Plain.event_eq`), and nothing that is asked of the session changes what it is
(`Session.Plain.run`).
-/
namespace EventMarkup

namespace Session

/-- A session without guards over a sink that renders all events in a style. -/
structure Plain (st : Style) (s : Session) : Prop where
  guards : s.guards = []
  vocabulary : s.sink.vocabulary = .everything
  style : s.sink.style = st

namespace Plain

variable {st : Style} {s : Session} (h : s.Plain st)
include h

theorem event_eq (e : Event) : s.event e = (s.sink.event e).within fun k => ⟨[], k⟩ := by
  rw [event, h.guards]
  rfl

theorem event (e : Event) : (s.event e).after.Plain st := by
  rw [h.event_eq]
  exact ⟨rfl, (Sink.event_vocabulary s.sink e).trans h.vocabulary,
    (Sink.event_style s.sink e).trans h.style⟩

theorem events (es : List Event) : (s.events es).after.Plain st := by
  induction es generalizing s with
  | nil => exact h
  | cons e es ih =>
    have hfirst := h.event e
    simp only [Session.events, Outcome.bind]
    split
    · exact hfirst
    · exact ih hfirst

theorem close : s.close.after.Plain st := by
  rw [Session.close, h.guards]
  exact ⟨rfl, h.vocabulary, h.style⟩

theorem act (a : Action) : (s.act a).after.Plain st := by
  cases a with
  | event e => exact h.event e
  | page t =>
    simp only [Session.act, Session.page]
    split
    · exact h
    · exact h.events _
  | close => exact h.close
  | leave failed =>
    have hleave : s.leave failed = s.close := by
      cases failed <;> simp [Session.leave, h.guards]
    simp only [Session.act, hleave]
    exact h.close
  | consumeHead =>
    have hv : s.sink.vocabulary.hasHead = true := by rw [h.vocabulary]; rfl
    simp only [Session.act, Session.onSink, Sink.consumeHead, hv, if_true]
    exact ⟨h.guards, h.vocabulary, h.style⟩
  | _ => exact ⟨h.guards, h.vocabulary, h.style⟩

theorem run (as : List Action) : (s.run as).Plain st := by
  induction as generalizing s with
  | nil => exact h
  | cons a as ih => exact ih (h.act a)

theorem run_events (es : List Event) :
    s.run (es.map .event) = ⟨[], final Sink.event s.sink es⟩ := by
  induction es generalizing s with
  | nil => rw [← h.guards]; rfl
  | cons e es ih =>
    have hrest := ih (h.event e)
    have hsink : (s.event e).after.sink = (s.sink.event e).after := by rw [h.event_eq]; rfl
    rw [hsink] at hrest
    exact hrest

end Plain

theorem start_plain (o : Options) : (start (.inMemory o) 0).Plain o.style :=
  ⟨rfl, rfl, rfl⟩

end Session

end EventMarkup
