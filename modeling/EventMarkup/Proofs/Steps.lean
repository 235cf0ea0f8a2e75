import EventMarkup.Session
import Mathlib.Data.List.Forall2

/-!
# Runs, step by step

`steps` records a run of events: what each event was sent to and what came of it. A failed event
does not end the run. A step is *refused* if its fault is a complaint about the order of events.

* `Sink.event_isOrder`: a sink by itself never complains about the order of events.
* `Session.events_allAccept`: events that all guards accept go to the sink as if there were none.
* `Session.event_guarded`: under one guard an event is either refused, and then leaves everything as
  it was, or it reaches the sink, and what comes of it is what comes of it on the sink alone.
-/
namespace EventMarkup

/-- Whether a fault is a complaint about the order of events. -/
def Fault.isOrder : Fault → Bool
  | order _ => true
  | _ => false

/-- Whether a fault can come of an event on a sink by itself: the sink is closed or does not know
the event, its destination fails, or a cell has no column. -/
def Fault.isOfSink : Fault → Bool
  | closedSink | output .. | unknownEncoding _ | unknownEvent .. | noColumn _ => true
  | _ => false

/-- One event of a run: what it was sent to and what came of it. -/
structure Step (σ : Type) where
  before : σ
  event : Event
  outcome : Outcome σ Unit

namespace Step

variable {σ τ : Type}

/-- Whether the event was refused for its place. -/
def refused (x : Step σ) : Bool :=
  match x.outcome.result with
  | .ok _ => false
  | .error f => f.isOrder

/-- The step, seen in a part of the value. -/
def map (f : σ → τ) (x : Step σ) : Step τ := ⟨f x.before, x.event, x.outcome.within f⟩

@[simp] theorem map_event (f : σ → τ) (x : Step σ) : (x.map f).event = x.event := rfl

end Step

section
variable {σ : Type} (send : σ → Event → Outcome σ Unit)

def steps (s : σ) : List Event → List (Step σ)
  | [] => []
  | e :: rest => ⟨s, e, send s e⟩ :: steps (send s e).after rest

def final (s : σ) (es : List Event) : σ := es.foldl (fun s e => (send s e).after) s

@[simp] theorem steps_cons (s : σ) (e : Event) (es : List Event) :
    steps send s (e :: es) = ⟨s, e, send s e⟩ :: steps send (send s e).after es := rfl

@[simp] theorem final_nil (s : σ) : final send s [] = s := rfl

@[simp] theorem final_cons (s : σ) (e : Event) (es : List Event) :
    final send s (e :: es) = final send (send s e).after es := rfl

theorem steps_append (s : σ) (xs ys : List Event) :
    steps send s (xs ++ ys) = steps send s xs ++ steps send (final send s xs) ys := by
  induction xs generalizing s with
  | nil => rfl
  | cons x xs ih =>
    rw [List.cons_append, steps_cons, steps_cons, ih]
    rfl

end

theorem Session.run_events (s : Session) (es : List Event) :
    s.run (es.map .event) = final Session.event s es := by
  induction es generalizing s with
  | nil => rfl
  | cons e es ih => exact ih _

/-- Events that all went well went well one after the other. -/
theorem Session.events_cons_ok {s : Session} {e : Event} {es : List Event}
    (h : (s.events (e :: es)).result = .ok ()) :
    (s.event e).result = .ok () ∧ ((s.event e).after.events es).result = .ok () ∧
      (s.events (e :: es)).after = ((s.event e).after.events es).after := by
  simp only [events, Outcome.bind] at h ⊢
  split at h
  · cases h
  · rename_i hr
    exact ⟨hr, h, rfl⟩

/-! ## A sink by itself -/

namespace Destination

theorem streamItem_isOfSink {d : Destination} {s : Stream} {t : String} {f : Fault}
    (h : d.streamItem s t = .error f) : f.isOfSink = true := by
  unfold streamItem failure at h
  repeat' split at h
  all_goals cases h
  all_goals rfl

theorem offer_isOfSink {d : Destination} {i : Item} {f : Fault} (h : d.offer i = .error f) :
    f.isOfSink = true := by
  unfold offer failure at h
  split at h <;> cases h
  rfl

theorem item_isOfSink {d : Destination} {t : String} {f : Fault} (h : d.item t = .error f) :
    f.isOfSink = true := by
  unfold item failure at h
  split at h
  · split at h <;> cases h
    rfl
  · split at h
    · cases h; rfl
    · split at h
      · exact offer_isOfSink h
      · cases h; rfl
  · split at h
    · rename_i hs
      cases h
      exact streamItem_isOfSink hs
    · cases h; rfl
    · exact offer_isOfSink h

theorem write_isOfSink {d : Destination} {t : String} {f : Fault}
    (h : (d.write t).result = .error f) : f.isOfSink = true := by
  unfold write at h
  split at h
  · cases h
  · rename_i hi
    cases h
    exact item_isOfSink hi

end Destination

namespace Sink

/-- A sink that renders all events, before the first of them. -/
def fresh (o : Options) (d : Destination) : Sink :=
  { vocabulary := .everything, options := .full o, destination := d }

/-- Whoever asks for such a sink gets it, unless the destination cannot be had. -/
theorem create_fresh {host : Host} {disk : Disk} {o : Options} {target : Target} {k : Sink}
    (h : (create disk .everything (some (.full o)) target host).result = .ok k) :
    ∃ d, k = fresh o d := by
  simp only [create, chooseOptions, Outcome.bind] at h
  split at h
  · cases h
  · cases h
    exact ⟨_, rfl⟩

def inMemory (o : Options) : Sink := fresh o { channel := .buffer, encoding := o.encoding }

theorem create_inMemory (disk : Disk) (o : Options) :
    (create disk .everything (some (.full o)) .buffer).result = .ok (inMemory o) := rfl

theorem send_isOfSink {l : Text.LineEnding} {d : Destination} {t : String} {f : Fault}
    (h : (send l d t).result = .error f) : f.isOfSink = true := by
  unfold send at h
  split at h
  · cases h; rfl
  · exact Destination.write_isOfSink h

theorem sendAll_isOfSink {l : Text.LineEnding} {d : Destination} {ts : List String} {f : Fault}
    (h : (sendAll l d ts).result = .error f) : f.isOfSink = true := by
  induction ts generalizing d with
  | nil => cases h
  | cons t ts ih =>
    simp only [sendAll, Outcome.bind] at h
    split at h
    · rename_i hs
      cases h
      exact send_isOfSink hs
    · exact ih h

theorem perform_isOfSink {k : Sink} {r : Reaction} {f : Fault}
    (h : (k.perform r).result = .error f) : f.isOfSink = true := by
  simp only [perform] at h
  split at h
  · cases h
  · rename_i hs
    cases h
    exact sendAll_isOfSink hs

theorem event_isOfSink {k : Sink} {e : Event} {f : Fault} (h : (k.event e).result = .error f) :
    f.isOfSink = true := by
  unfold event at h
  split at h
  · split at h
    · rename_i hl
      cases h
      unfold Render.lookupFault? at hl
      repeat' split at hl
      all_goals cases hl
      rfl
    · exact perform_isOfSink h
  · cases h; rfl

theorem event_isOrder {k : Sink} {e : Event} {f : Fault} (h : (k.event e).result = .error f) :
    f.isOrder = false := by
  have hsink := event_isOfSink h
  cases f <;> first | rfl | cases hsink

theorem event_vocabulary (k : Sink) (e : Event) :
    (k.event e).after.vocabulary = k.vocabulary := by
  unfold event
  split
  · split
    · rfl
    · simp only [perform]; split <;> rfl
  · rfl

end Sink

/-! ## A sink under guards -/

/-- The guard after events, or its complaint about the first that it refuses. -/
def Guard.acceptAll (g : Guard) (es : List Event) : Except OrderFault Guard := es.foldlM accept g

theorem Guard.acceptAll_cons_ok {g g' : Guard} {e : Event} {es : List Event}
    (h : g.acceptAll (e :: es) = .ok g') :
    ∃ g₁, g.accept e = .ok g₁ ∧ g₁.acceptAll es = .ok g' := by
  rw [acceptAll, List.foldlM_cons] at h
  cases ha : g.accept e with
  | error f =>
    rw [ha] at h
    cases h
  | ok g₁ =>
    rw [ha] at h
    exact ⟨g₁, rfl, h⟩

section
variable {gs gs' : List Guard} {e : Event} {es : List Event} {k : Sink}

theorem Guard.acceptAll_cons_all
    (h : List.Forall₂ (fun g g' => acceptAll g (e :: es) = .ok g') gs gs') :
    ∃ gs₁, List.Forall₂ (fun g g' => accept g e = .ok g') gs gs₁ ∧
      List.Forall₂ (fun g g' => acceptAll g es = .ok g') gs₁ gs' := by
  induction h with
  | nil => exact ⟨[], .nil, .nil⟩
  | cons hg _ ih =>
    obtain ⟨g₁, hfirst, hrest⟩ := acceptAll_cons_ok hg
    obtain ⟨gs₁, hfirsts, hrests⟩ := ih
    exact ⟨g₁ :: gs₁, .cons hfirst hfirsts, .cons hrest hrests⟩

theorem Session.event_allAccept (hk : k.vocabulary.knows e = true)
    (h : List.Forall₂ (fun g g' => Guard.accept g e = .ok g') gs gs') :
    (⟨gs, k⟩ : Session).event e = (k.event e).within fun k' => ⟨gs', k'⟩ := by
  rw [event]
  induction h with
  | nil => rfl
  | cons hg _ ih =>
    simp only [pass, hk, Bool.or_true, if_true, hg, ih]
    rfl

/-- Events that all guards accept and that go well on the sink go well on the session. -/
theorem Session.events_allAccept (hv : k.vocabulary = .everything)
    (hg : List.Forall₂ (fun g g' => Guard.acceptAll g es = .ok g') gs gs')
    (hok : ∀ x ∈ steps Sink.event k es, x.outcome.result = .ok ()) :
    ((⟨gs, k⟩ : Session).events es).result = .ok () ∧
      ((⟨gs, k⟩ : Session).events es).after = ⟨gs', final Sink.event k es⟩ := by
  induction es generalizing gs k with
  | nil =>
    have hsame : List.Forall₂ (· = ·) gs gs' := hg.imp fun _ _ h => Except.ok.inj h
    rw [List.forall₂_eq_eq_eq] at hsame
    exact ⟨rfl, by rw [hsame]; rfl⟩
  | cons e es ih =>
    obtain ⟨gs₁, hfirst, hrest⟩ := Guard.acceptAll_cons_all hg
    have hk : k.vocabulary.knows e = true := by rw [hv]; rfl
    have hv₁ : (k.event e).after.vocabulary = .everything := by rw [Sink.event_vocabulary, hv]
    rw [steps_cons, List.forall_mem_cons] at hok
    have hr : (k.event e).result = .ok () := hok.1
    obtain ⟨hres, hafter⟩ := ih hv₁ hrest hok.2
    simp only [events, event_allAccept hk hfirst, Outcome.bind, Outcome.within, hr]
    exact ⟨hres, hafter⟩

end

namespace Session

/-- Under one guard an event is refused, which leaves everything as it was, or it goes to the sink.
-/
theorem event_guarded (g : Guard) (k : Sink) (e : Event) :
    (∃ f, (⟨[g], k⟩ : Session).event e = .fail ⟨[g], k⟩ (.order f)) ∨
      ∃ g', (⟨[g], k⟩ : Session).event e = (k.event e).within fun k' => ⟨[g'], k'⟩ := by
  simp only [event, pass]
  split
  · split
    · rename_i f _
      exact Or.inl ⟨f, rfl⟩
    · rename_i g' _
      exact Or.inr ⟨g', rfl⟩
  · rename_i hk
    have hv : k.vocabulary.knows e = false := by simp_all
    refine Or.inr ⟨g, ?_⟩
    simp only [Sink.event, hv]
    rfl

section
variable {g g' : Guard} {k : Sink} {e : Event}

theorem event_refused {f : OrderFault} (hk : k.vocabulary.knows e = true)
    (hg : g.accept e = .error f) :
    (⟨[g], k⟩ : Session).event e = .fail ⟨[g], k⟩ (.order f) := by
  simp only [event, pass, hk, Bool.or_true, if_true, hg]

theorem event_accepted (hk : k.vocabulary.knows e = true) (hg : g.accept e = .ok g') :
    (⟨[g], k⟩ : Session).event e = (k.event e).within fun k' => ⟨[g'], k'⟩ :=
  event_allAccept hk (.cons hg .nil)

theorem event_ok (hk : k.vocabulary.knows e = true)
    (h : ((⟨[g], k⟩ : Session).event e).result = .ok ()) :
    ∃ g', g.accept e = .ok g' ∧ (k.event e).result = .ok () ∧
      ((⟨[g], k⟩ : Session).event e).after = ⟨[g'], (k.event e).after⟩ := by
  cases hg : g.accept e with
  | error f =>
    rw [event_refused hk hg] at h
    cases h
  | ok g' =>
    rw [event_accepted hk hg] at h ⊢
    exact ⟨g', rfl, h, rfl⟩

end

end Session

theorem Step.refused_within {σ : Type} (s : σ) (k : Sink) (e : Event) (f : Sink → σ) :
    (Step.mk s e ((k.event e).within f)).refused = false := by
  simp only [refused, Outcome.within]
  split
  · rfl
  · rename_i hr
    exact Sink.event_isOrder hr

end EventMarkup
