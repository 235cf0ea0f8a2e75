import EventMarkup.Session

/-!
# Sinks that a session cannot tell apart

A relation between sinks is a simulation if related sinks answer alike and stay related, whatever is
done with them (`Sink.Simulation`). Guards look at nothing of a sink but the events that it knows,
so sessions with the same guards over related sinks answer alike as well, and stay what they are
(`Sink.Simulation.act`, `Sink.Simulation.run`).

Only the questions for something in the sink itself (`Session.Action.isQuestion`) may have different
answers.
-/
namespace EventMarkup

/-- Two outcomes that tell the same and leave related values behind. -/
structure Outcome.Alike {σ τ α : Type} (R : σ → τ → Prop) (r : Outcome σ α) (r' : Outcome τ α) :
    Prop where
  after : R r.after r'.after
  notices : r'.notices = r.notices
  result : r'.result = r.result

namespace Outcome.Alike

variable {σ τ α β : Type} {R : σ → τ → Prop} {r : Outcome σ α} {r' : Outcome τ α}

theorem map (h : Alike R r r') (f : α → β) : Alike R (r.map f) (r'.map f) :=
  ⟨h.after, h.notices, congrArg (Except.map f) h.result⟩

theorem within {σ' τ' : Type} {R' : σ' → τ' → Prop} {f : σ → σ'} {f' : τ → τ'} (h : Alike R r r')
    (hf : R r.after r'.after → R' (f r.after) (f' r'.after)) :
    Alike R' (r.within f) (r'.within f') :=
  ⟨hf h.after, h.notices, h.result⟩

theorem bind {next : σ → α → Outcome σ β} {next' : τ → α → Outcome τ β} (h : Alike R r r')
    (hnext : ∀ a, R r.after r'.after → Alike R (next r.after a) (next' r'.after a)) :
    Alike R (r.bind next) (r'.bind next') := by
  simp only [Outcome.bind, h.result]
  cases r.result with
  | error f => exact ⟨h.after, h.notices, rfl⟩
  | ok a =>
    obtain ⟨hafter, hnotices, hresult⟩ := hnext a h.after
    exact ⟨hafter, congr (congrArg _ h.notices) hnotices, hresult⟩

end Outcome.Alike

/-- A relation between sinks that answer alike and stay related. The last field says what taking the
text of a head leaves behind; the text itself may differ. -/
structure Sink.Simulation (R : Sink → Sink → Prop) : Prop where
  vocabulary {k k' : Sink} : R k k' → k'.vocabulary = k.vocabulary
  event {k k' : Sink} : R k k' → ∀ e, Outcome.Alike R (k.event e) (k'.event e)
  write {k k' : Sink} : R k k' → ∀ t, Outcome.Alike R (k.write t) (k'.write t)
  flush {k k' : Sink} : R k k' → Outcome.Alike R k.flush k'.flush
  close {k k' : Sink} : R k k' → Outcome.Alike R k.close k'.close
  reset {k k' : Sink} : R k k' → R k.resetState k'.resetState
  consume {k k' : Sink} : R k k' → R k.consumeHead.after k'.consumeHead.after

/-- Whether an action asks for something in the sink. -/
def Session.Action.isQuestion : Action → Bool
  | value | closed | state | options | headText | consumeHead => true
  | _ => false

/-- Whether two sessions have the same guards over related sinks. -/
structure Session.Over (R : Sink → Sink → Prop) (s s' : Session) : Prop where
  guards : s'.guards = s.guards
  sink : R s.sink s'.sink

namespace Sink.Simulation

open Session

variable {R : Sink → Sink → Prop} (hR : Simulation R)
include hR

section
variable {k k' : Sink} (hk : R k k')
include hk

theorem pass (e : Event) (gs : List Guard) :
    Outcome.Alike (Over R) (Session.pass e k gs) (Session.pass e k' gs) := by
  induction gs with
  | nil => exact (hR.event hk e).within fun h => ⟨rfl, h⟩
  | cons g gs ih =>
    -- a guard decides by what the sink knows and by its own constructs, and they are the same
    have hunknown : k'.unknown e.name = k.unknown e.name := by
      rw [unknown, unknown, hR.vocabulary hk]
    simp only [Session.pass, hR.vocabulary hk, hunknown]
    split
    · cases g.accept e with
      | error f => exact ⟨⟨rfl, hk⟩, rfl, rfl⟩
      | ok g' => exact ih.within fun h => ⟨by rw [h.guards], h.sink⟩
    · exact ⟨⟨rfl, hk⟩, rfl, rfl⟩

theorem closeUnder (gs : List Guard) :
    Outcome.Alike (Over R) (Session.closeUnder k gs) (Session.closeUnder k' gs) := by
  induction gs with
  | nil => exact (hR.close hk).within fun h => ⟨rfl, h⟩
  | cons g gs ih =>
    refine Outcome.Alike.bind (ih.within fun h => ⟨by rw [h.guards], h.sink⟩) fun _ h => ?_
    cases g.endFault? with
    | none => exact ⟨h, rfl, rfl⟩
    | some f => exact ⟨h, rfl, rfl⟩

end

section
variable {s s' : Session} (h : Over R s s')
include h

theorem sessionEvent (e : Event) : Outcome.Alike (Over R) (s.event e) (s'.event e) := by
  rw [Session.event, Session.event, h.guards]
  exact hR.pass h.sink e s.guards

theorem events (es : List Event) : Outcome.Alike (Over R) (s.events es) (s'.events es) := by
  induction es generalizing s s' with
  | nil => exact ⟨h, rfl, rfl⟩
  | cons e es ih => exact (hR.sessionEvent h e).bind fun _ hnext => ih hnext

theorem page (readers : List Wiki.BlockReader) (t : String) :
    Outcome.Alike (Over R) (s.page readers t) (s'.page readers t) := by
  simp only [Session.page]
  cases Wiki.readBlocks readers (.ofText t) with
  | error f => exact ⟨h, rfl, rfl⟩
  | ok read => exact Outcome.Alike.bind ⟨h, rfl, rfl⟩ fun _ hnext => hR.events hnext _

theorem leave (failed : Bool) : Outcome.Alike (Over R) (s.leave failed) (s'.leave failed) := by
  obtain ⟨gs, k⟩ := s
  obtain ⟨gs', k'⟩ := s'
  obtain ⟨hguards, hsink⟩ := h
  cases hguards
  cases failed with
  | false => exact hR.closeUnder hsink gs
  | true =>
    cases gs with
    | nil => exact hR.closeUnder hsink []
    | cons g gs =>
      have hbelow := hR.closeUnder hsink gs
      exact ⟨⟨congrArg (List.cons g) hbelow.after.guards, hbelow.after.sink⟩, hbelow.notices,
        hbelow.result⟩

/-- What is no question for something in the sink has the same answer. -/
theorem act {a : Action} (ha : a.isQuestion = false) :
    Outcome.Alike (Over R) (s.act a) (s'.act a) := by
  have hlabel : s'.label = s.label := by
    rw [Session.label, Session.label, h.guards, hR.vocabulary h.sink]
  have hunknown (name : String) : s'.sink.unknown name = s.sink.unknown name := by
    rw [unknown, unknown, hR.vocabulary h.sink]
  cases a with
  | event e => exact (hR.sessionEvent h e).map _
  | page t => exact (hR.page h _ t).map _
  | write t => exact ((hR.write h.sink t).within fun hk => ⟨h.guards, hk⟩).map _
  | flush => exact ((hR.flush h.sink).within fun hk => ⟨h.guards, hk⟩).map _
  | close =>
    have hclose : Outcome.Alike (Over R) s.close s'.close := hR.leave h false
    exact hclose.map _
  | leave failed => exact (hR.leave h failed).map _
  | openConstructs =>
    refine ⟨h, rfl, ?_⟩
    simp only [Session.act, ask, openConstructs, h.guards, hunknown]
  | resetState => exact ⟨⟨h.guards, hR.reset h.sink⟩, rfl, rfl⟩
  | enter => exact ⟨h, rfl, by simp only [Session.act, hlabel]; rfl⟩
  | unknown name => exact ⟨h, rfl, by simp only [Session.act, hunknown]; rfl⟩
  | value | closed | state | options | headText | consumeHead => cases ha

theorem act_after (a : Action) : Over R (s.act a).after (s'.act a).after := by
  cases a with
  | consumeHead => exact ⟨h.guards, hR.consume h.sink⟩
  | value | closed | state | options | headText => exact h
  | _ => exact (hR.act h rfl).after

theorem run (as : List Action) : Over R (s.run as) (s'.run as) := by
  induction as generalizing s s' with
  | nil => exact h
  | cons a as ih => exact ih (hR.act_after h a)

end

end Sink.Simulation

end EventMarkup
