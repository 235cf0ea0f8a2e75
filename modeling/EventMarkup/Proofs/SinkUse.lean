import EventMarkup.Proofs.Transition
import EventMarkup.Session
import Mathlib.Logic.Relation

/-!
# What happens to the sink of a session

Whatever is asked of a session comes down to a few operations on its sink. Either the session is
closed, and so is the sink (`Session.act_closing`), or the sink is used a number of times
(`Session.act_used`), where each use is an event, a text written, a flush or a change of the state
(`Sink.Use`). What every use keeps, a run of a session keeps.

* `Sink.Use.kept`: a use changes the state of a sink and what its target received, nothing else.
* `Sink.Use.frozen`: the destination of a closed sink does not change at all.
* `Sink.Use.cellIndex_nonneg`: the state never counts less than no cells.
-/
namespace EventMarkup

/-! ## Destinations -/

namespace Destination

theorem write_kept (d : Destination) (t : String) :
    ∃ items, (d.write t).after = { d with sent := items } := by
  unfold write
  split
  · exact ⟨_, rfl⟩
  · exact ⟨d.sent, rfl⟩

theorem flush_after (d : Destination) : d.flush.after = d := by
  unfold flush
  split
  · rfl
  · cases d.flushFailure? <;> rfl

theorem close_after (d : Destination) : d.close.after = { d with closed := true } := by
  unfold close
  split
  · rename_i hclosed
    rw [← hclosed]
    rfl
  · cases d.flushFailure? <;> rfl

end Destination

namespace Sink

theorem send_kept (l : Text.LineEnding) (d : Destination) (t : String) :
    ∃ items, (send l d t).after = { d with sent := items } := by
  unfold send
  split
  · exact ⟨d.sent, rfl⟩
  · exact d.write_kept _

theorem send_closed (l : Text.LineEnding) {d : Destination} (h : d.closed = true) (t : String) :
    send l d t = .fail d .closedSink := by
  rw [send, if_pos h]

theorem sendAll_kept (l : Text.LineEnding) (d : Destination) (ts : List String) :
    ∃ items, (sendAll l d ts).after = { d with sent := items } := by
  induction ts generalizing d with
  | nil => exact ⟨d.sent, rfl⟩
  | cons t ts ih =>
    obtain ⟨items, hsend⟩ := send_kept l d t
    simp only [sendAll, Outcome.bind]
    split
    · exact ⟨items, hsend⟩
    · obtain ⟨items', hrest⟩ := ih (send l d t).after
      refine ⟨items', ?_⟩
      rw [hrest, hsend]

theorem sendAll_closed (l : Text.LineEnding) {d : Destination} (h : d.closed = true)
    (ts : List String) : sendAll l d ts = if ts = [] then .done d () else .fail d .closedSink := by
  cases ts with
  | nil => rfl
  | cons t ts =>
    simp only [sendAll, send_closed l h]
    rfl

theorem close_after (k : Sink) :
    k.close.after = { k with destination := { k.destination with closed := true } } := by
  rw [close, Outcome.within, Destination.close_after]

/-! ## Uses -/

/-- Whether a sink differs from another in its state and in what its target received alone. -/
def Kept (k k' : Sink) : Prop :=
  ∃ items s, k' = { k with destination := { k.destination with sent := items }, state := s }

theorem Kept.trans {k₁ k₂ k₃ : Sink} (h : k₁.Kept k₂) (h' : k₂.Kept k₃) : k₁.Kept k₃ := by
  obtain ⟨items, s, rfl⟩ := h
  obtain ⟨items', s', rfl⟩ := h'
  exact ⟨items', s', rfl⟩

theorem Kept.style {k k' : Sink} (h : k.Kept k') : k'.style = k.style := by
  obtain ⟨items, s, rfl⟩ := h
  rfl

theorem perform_kept (k : Sink) (r : Reaction) : k.Kept (k.perform r).after := by
  obtain ⟨items, hsent⟩ := sendAll_kept k.style.lineEnding k.destination r.pieces
  simp only [perform]
  split
  · exact ⟨items, r.late, by rw [hsent]⟩
  · exact ⟨items, r.early, by rw [hsent]⟩

theorem event_kept (k : Sink) (e : Event) : k.Kept (k.event e).after := by
  unfold event
  split
  · split
    · exact ⟨_, _, rfl⟩
    · exact k.perform_kept _
  · exact ⟨_, _, rfl⟩

/-- A use of a sink, other than to close it. -/
inductive Use : Sink → Sink → Prop where
  | event (k : Sink) (e : Event) : Use k (k.event e).after
  | write (k : Sink) (t : String) : Use k (k.write t).after
  | flush (k : Sink) : Use k k.flush.after
  | reset (k : Sink) : Use k k.resetState
  | consume (k : Sink) : Use k k.consumeHead.after

theorem consumeHead_after (k : Sink) : ∃ s, k.consumeHead.after = { k with state := s } := by
  unfold consumeHead
  split
  · exact ⟨_, rfl⟩
  · exact ⟨k.state, rfl⟩

section
variable {k k' : Sink}

theorem Use.kept (h : Use k k') : k.Kept k' := by
  cases h with
  | event e => exact k.event_kept e
  | write t =>
    obtain ⟨items, hsent⟩ := send_kept k.style.lineEnding k.destination t
    exact ⟨items, k.state, by rw [Sink.write, Outcome.within, hsent]⟩
  | flush =>
    refine ⟨k.destination.sent, k.state, ?_⟩
    rw [Sink.flush, Outcome.within, Destination.flush_after]
  | reset => exact ⟨_, _, rfl⟩
  | consume =>
    obtain ⟨s, hs⟩ := k.consumeHead_after
    exact ⟨_, s, hs⟩

theorem Use.frozen (h : Use k k') (hc : k.closed = true) : k'.destination = k.destination := by
  have hsent (ts : List String) :
      (sendAll k.style.lineEnding k.destination ts).after = k.destination := by
    rw [sendAll_closed _ hc]
    split <;> rfl
  cases h with
  | event e =>
    unfold Sink.event
    split
    · split
      · rfl
      · simp only [perform]
        split <;> exact hsent _
    · rfl
  | write t =>
    rw [Sink.write, Outcome.within, send_closed _ hc]
    rfl
  | flush => exact Destination.flush_after _
  | reset => rfl
  | consume =>
    obtain ⟨s, hs⟩ := k.consumeHead_after
    rw [hs]

end

end Sink

/-! ## Buffers under a map of their items -/

section
variable {d : Destination} (h : d.channel = .buffer)
include h

/-- Flushing a buffer does not depend on what it holds, and neither does closing it. -/
theorem Destination.flush_map (g : Array Item → Array Item) :
    Destination.flush { d with sent := g d.sent } =
      d.flush.within fun d => { d with sent := g d.sent } := by
  obtain ⟨channel, encoding, device, others, closed, sent⟩ := d
  cases h
  rfl

theorem Destination.close_map (g : Array Item → Array Item) :
    Destination.close { d with sent := g d.sent } =
      d.close.within fun d => { d with sent := g d.sent } := by
  obtain ⟨channel, encoding, device, others, closed, sent⟩ := d
  cases h
  cases closed <;> rfl

/-- What a map of buffers does to each text sent it does to several. -/
theorem Sink.sendAll_map {l l' : Text.LineEnding} {f : Destination → Destination}
    (hsend : ∀ {d : Destination}, d.channel = .buffer →
      ∀ t, send l' (f d) t = (send l d t).within f) (ts : List String) :
    sendAll l' (f d) ts = (sendAll l d ts).within f := by
  induction ts generalizing d with
  | nil => rfl
  | cons t ts ih =>
    obtain ⟨sent, hsent⟩ := send_kept l d t
    have hchannel : (send l d t).after.channel = .buffer := by rw [hsent]; exact h
    simp only [sendAll, hsend h, Outcome.bind, Outcome.within]
    cases (send l d t).result with
    | error f => rfl
    | ok u =>
      have hrest := ih hchannel
      simp only [hrest]
      rfl

end

/-! ## Cells are counted from zero upwards -/

theorem Sink.event_cellIndex {k : Sink} (h : 0 ≤ k.state.cellIndex) (e : Event) :
    0 ≤ (k.event e).after.state.cellIndex := by
  rcases k.event_state_cases e with hs | hs
  · rw [hs]
    exact h
  · rw [hs]
    exact Render.cellIndex_nonneg h e

theorem Sink.final_cellIndex {k : Sink} (h : 0 ≤ k.state.cellIndex) (es : List Event) :
    0 ≤ (final event k es).state.cellIndex := by
  induction es generalizing k with
  | nil => exact h
  | cons e es ih => exact ih (event_cellIndex h e)

theorem Sink.Use.cellIndex_nonneg {k k' : Sink} (h : Use k k') (hk : 0 ≤ k.state.cellIndex) :
    0 ≤ k'.state.cellIndex := by
  cases h with
  | event e => exact event_cellIndex hk e
  | write | flush => exact hk
  | reset => exact Int.le_refl 0
  | consume =>
    unfold consumeHead
    split <;> exact hk

/-! ## Sessions -/

open Relation

theorem Sink.Use.keeps {P : Sink → Prop} (huse : ∀ k k', Use k k' → P k → P k') {k k' : Sink}
    (h : ReflTransGen Use k k') (hk : P k) : P k' := by
  induction h with
  | refl => exact hk
  | tail _ hlast ih => exact huse _ _ hlast ih

namespace Session

/-- An event reaches the sink of a session or is kept away from it. -/
theorem pass_sink (e : Event) (k : Sink) (gs : List Guard) :
    (pass e k gs).after.sink = k ∨ (pass e k gs).after.sink = (k.event e).after := by
  induction gs with
  | nil => exact Or.inr rfl
  | cons g gs ih =>
    simp only [pass]
    split
    · split
      · exact Or.inl rfl
      · exact ih
    · exact Or.inl rfl

theorem event_used (s : Session) (e : Event) :
    ReflTransGen Sink.Use s.sink (s.event e).after.sink := by
  rcases pass_sink e s.sink s.guards with h | h <;> rw [event, h]
  exact .single (.event s.sink e)

theorem events_used (s : Session) (es : List Event) :
    ReflTransGen Sink.Use s.sink (s.events es).after.sink := by
  induction es generalizing s with
  | nil => exact .refl
  | cons e es ih =>
    simp only [events, Outcome.bind]
    split
    · exact s.event_used e
    · exact (s.event_used e).trans (ih _)

/-- Whether an action closes the sink: a request to close, or the end of a scope. -/
def Action.isClosing : Action → Bool
  | close | leave _ => true
  | _ => false

/-- Actions that do not close the sink use it. -/
theorem act_used (s : Session) {a : Action} (ha : a.isClosing = false) :
    ReflTransGen Sink.Use s.sink (s.act a).after.sink := by
  cases a with
  | event e => exact s.event_used e
  | page t =>
    simp only [act, page]
    split
    · exact .refl
    · exact s.events_used _
  | write t => exact .single (.write s.sink t)
  | flush => exact .single (.flush s.sink)
  | resetState => exact .single (.reset s.sink)
  | consumeHead => exact .single (.consume s.sink)
  | close | leave => cases ha
  | _ => exact .refl

theorem closeUnder_sink (k : Sink) (gs : List Guard) :
    (closeUnder k gs).after.sink = k.close.after := by
  induction gs with
  | nil => rfl
  | cons g gs ih =>
    simp only [closeUnder, Outcome.bind, Outcome.within]
    split
    · exact ih
    · cases g.endFault? <;> exact ih

theorem act_closing (s : Session) {a : Action} (ha : a.isClosing = true) :
    (s.act a).after.sink = s.sink.close.after := by
  cases a with
  | close => exact closeUnder_sink s.sink s.guards
  | leave failed =>
    obtain ⟨gs, k⟩ := s
    cases failed with
    | false => exact closeUnder_sink k gs
    | true =>
      cases gs with
      | nil => rfl
      | cons g gs => exact closeUnder_sink k gs
  | _ => cases ha

/-- What uses keep, and closing too if it occurs, a run keeps. -/
theorem run_keeps {P : Sink → Prop} (huse : ∀ k k', Sink.Use k k' → P k → P k') (s : Session)
    {as : List Action} (hclose : (∃ a ∈ as, a.isClosing = true) → ∀ k, P k → P k.close.after)
    (h : P s.sink) : P (s.run as).sink := by
  induction as generalizing s with
  | nil => exact h
  | cons a as ih =>
    refine ih _ (fun ⟨b, hb, hcb⟩ => hclose ⟨b, List.mem_cons_of_mem _ hb, hcb⟩) ?_
    -- an action that closes the sink does so once; any other comes down to uses
    cases ha : a.isClosing with
    | true =>
      rw [s.act_closing ha]
      exact hclose ⟨a, List.mem_cons_self .., ha⟩ _ h
    | false =>
      exact Sink.Use.keeps huse (s.act_used ha) h

/-- A run that does not close the sink changes its state and what its target received alone. -/
theorem run_kept (s : Session) {as : List Action} (has : ∀ a ∈ as, a.isClosing = false) :
    s.sink.Kept (s.run as).sink := by
  refine run_keeps (P := s.sink.Kept) (fun _ _ hu hk => hk.trans hu.kept) s ?_ ⟨_, _, rfl⟩
  rintro ⟨a, ha, hclosing⟩
  rw [has a ha] at hclosing
  cases hclosing

end Session

end EventMarkup
