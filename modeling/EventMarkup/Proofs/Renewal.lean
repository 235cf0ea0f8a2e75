import EventMarkup.Proofs.Buffer
import EventMarkup.Proofs.PlainSession
import EventMarkup.Proofs.Simulation
import EventMarkup.Proofs.SinkUse

/-!
# A reset sink is as good as new

A reset restores every field of the state, so a sink with its own buffer that was used and then
reset differs from a fresh one only in what the buffer holds already. Nothing that a session answers
depends on that, but for the whole text itself (`Sink.behind_simulation`,
`Session.question_behind`): the text of a fresh one is added to it (`reset_renews`).
-/
namespace EventMarkup

/-! ## Behind other items -/

/-- The destination with items in front of those that it received. -/
def Destination.behind (items : Array Item) (d : Destination) : Destination :=
  { d with sent := items ++ d.sent }

def Sink.behind (items : Array Item) (k : Sink) : Sink :=
  { k with destination := k.destination.behind items }

def Session.behind (items : Array Item) (s : Session) : Session :=
  { s with sink := s.sink.behind items }

theorem Destination.text_behind (items : Array Item) (d : Destination) :
    (d.behind items).text = String.join (items.toList.map Item.chars) ++ d.text := by
  simp [text, behind]

section
variable (items : Array Item)

namespace Sink

/-- What a buffer is sent comes behind what it holds, all the same. -/
theorem send_behind (l : Text.LineEnding) {d : Destination} (h : d.channel = .buffer) (t : String) :
    send l (d.behind items) t = (send l d t).within (.behind items) := by
  cases hc : d.closed with
  | true => rw [send_closed l hc, send_closed l (d := d.behind items) hc]; rfl
  | false =>
    have hopen : d.OpenBuffer := ⟨h, hc⟩
    have hbehind : (d.behind items).OpenBuffer := ⟨h, hc⟩
    rw [hopen.send, hbehind.send]
    simp [Destination.behind, Outcome.done, Outcome.within]

theorem perform_behind {k : Sink} (h : k.destination.channel = .buffer) (r : Reaction) :
    (k.behind items).perform r = (k.perform r).within (.behind items) := by
  have hsent : sendAll (k.behind items).style.lineEnding (k.behind items).destination r.pieces =
      (sendAll k.style.lineEnding k.destination r.pieces).within (.behind items) :=
    sendAll_map h (send_behind items _) r.pieces
  simp only [perform, hsent, Outcome.within]
  split <;> rfl

theorem event_behind {k : Sink} (h : k.destination.channel = .buffer) (e : Event) :
    (k.behind items).event e = (k.event e).within (.behind items) := by
  have hstyle : (k.behind items).style = k.style := rfl
  have hstate : (k.behind items).state = k.state := rfl
  have hvocabulary : (k.behind items).vocabulary = k.vocabulary := rfl
  simp only [event, hstyle, hstate, hvocabulary, perform_behind items h]
  split
  · split <;> rfl
  · rfl

theorem write_behind {k : Sink} (h : k.destination.channel = .buffer) (t : String) :
    (k.behind items).write t = (k.write t).within (.behind items) := by
  have hsent : send (k.behind items).style.lineEnding (k.behind items).destination t =
      (send k.style.lineEnding k.destination t).within (.behind items) :=
    send_behind items _ h t
  rw [write, write, hsent]
  rfl

theorem Kept.buffered {k k' : Sink} (h : k.Kept k') (hk : k.destination.channel = .buffer) :
    k'.destination.channel = .buffer := by
  obtain ⟨sent, s, rfl⟩ := h
  exact hk

theorem close_buffered (k : Sink) (hk : k.destination.channel = .buffer) :
    k.close.after.destination.channel = .buffer := by
  rw [close_after]
  exact hk

theorem value_buffered {k : Sink} (hk : k.destination.channel = .buffer) :
    k.value = .ok k.destination.text := by
  rw [value, Destination.value, hk]

/-- Whether one sink has its own buffer, and another one is the same behind other items. -/
def Behind (k k' : Sink) : Prop := k.destination.channel = .buffer ∧ k' = k.behind items

/-- Behind other items a sink does the same, and nothing brings it out from behind them. -/
theorem behind_simulation : Simulation (Behind items) where
  vocabulary h := by rw [h.2]; rfl
  event {k k'} h e := by
    obtain ⟨hk, rfl⟩ := h
    rw [event_behind items hk]
    exact ⟨⟨(k.event_kept e).buffered hk, rfl⟩, rfl, rfl⟩
  write {k k'} h t := by
    obtain ⟨hk, rfl⟩ := h
    rw [write_behind items hk]
    exact ⟨⟨(Use.write k t).kept.buffered hk, rfl⟩, rfl, rfl⟩
  flush {k k'} h := by
    obtain ⟨hk, rfl⟩ := h
    have hflush : (k.behind items).flush = k.flush.within (.behind items) := by
      have hmap := Destination.flush_map hk (items ++ ·)
      simp only [flush, behind, Destination.behind, hmap]
      rfl
    rw [hflush]
    exact ⟨⟨(Use.flush k).kept.buffered hk, rfl⟩, rfl, rfl⟩
  close {k k'} h := by
    obtain ⟨hk, rfl⟩ := h
    have hclose : (k.behind items).close = k.close.within (.behind items) := by
      have hmap := Destination.close_map hk (items ++ ·)
      simp only [close, behind, Destination.behind, hmap]
      rfl
    rw [hclose]
    exact ⟨⟨k.close_buffered hk, rfl⟩, rfl, rfl⟩
  reset h := by
    obtain ⟨hk, rfl⟩ := h
    exact ⟨hk, rfl⟩
  consume {k k'} h := by
    obtain ⟨hk, rfl⟩ := h
    refine ⟨(Use.consume k).kept.buffered hk, ?_⟩
    obtain ⟨vocabulary, options, destination, state⟩ := k
    cases vocabulary <;> rfl

end Sink

end

/-! ## After a reset -/

/-- A question, other than for the text, has the same answer behind other items. -/
theorem Session.question_behind {items : Array Item} {s s' : Session}
    (h : s.Over (Sink.Behind items) s') {a : Action} (ha : a ≠ .value) :
    (s'.act a).result = (s.act a).result := by
  cases hq : a.isQuestion with
  | false => exact ((Sink.behind_simulation items).act h hq).result
  | true =>
    obtain ⟨gs, k⟩ := s
    obtain ⟨gs', k'⟩ := s'
    obtain ⟨-, -, hk⟩ := h
    cases hk
    cases a with
    | value => exact absurd rfl ha
    | closed | state | options | headText => rfl
    | consumeHead =>
      obtain ⟨vocabulary, options, destination, state⟩ := k
      cases vocabulary <;> rfl
    | _ => cases hq

/-- A session without guards that was used in any way but to close it is, once reset, a new one
behind the items that its buffer holds. -/
theorem Session.reset_over (o : Options) {before : List Action}
    (hbefore : ∀ a ∈ before, a.isClosing = false) :
    let new := Session.start (.inMemory o) 0
    let used := (new.run before).act .resetState |>.after
    new.Over (Sink.Behind (new.run before).sink.destination.sent) used := by
  intro new used
  -- vocabulary, options and destination are those of a new sink, and the state is reset
  obtain ⟨items, state, hsink⟩ := new.run_kept hbefore
  have hguards : (new.run before).guards = [] := ((start_plain o).run before).guards
  refine ⟨hguards, rfl, ?_⟩
  simp only [used, act, Outcome.done, hsink]
  rfl

/-- **A reset sink is as good as new.** Use a session without guards in any way but to close it, and
reset its state. From then on every answer but the whole text is that of a new session of which the
same is asked, and so is the state; to the text that it had is added what a new one writes. -/
theorem reset_renews (o : Options) (before after : List Session.Action)
    (hbefore : ∀ a ∈ before, a.isClosing = false) :
    let new := Session.start (.inMemory o) 0
    let used := (new.run before).act .resetState |>.after
    (∃ t u, (new.run before).sink.value = .ok t ∧ (new.run after).sink.value = .ok u ∧
        (used.run after).sink.value = .ok (t ++ u)) ∧
      (used.run after).sink.state = (new.run after).sink.state ∧
      ∀ a, a ≠ .value → ((used.run after).act a).result = ((new.run after).act a).result := by
  intro new used
  have hover : (new.run after).Over (Sink.Behind (new.run before).sink.destination.sent)
      (used.run after) :=
    (Sink.behind_simulation _).run (Session.reset_over o hbefore) after
  obtain ⟨hchannel, hsink⟩ := hover.sink
  have hstart : (new.run before).sink.destination.channel = .buffer :=
    Session.run_keeps (P := fun k => k.destination.channel = .buffer)
      (fun _ _ hu hk => hu.kept.buffered hk) new (fun _ k hk => k.close_buffered hk) rfl
  have htext : (used.run after).sink.destination.text =
      (new.run before).sink.destination.text ++ (new.run after).sink.destination.text := by
    rw [hsink]
    exact Destination.text_behind _ _
  have hend : (used.run after).sink.destination.channel = .buffer := by rw [hsink]; exact hchannel
  refine ⟨⟨_, _, Sink.value_buffered hstart, Sink.value_buffered hchannel, ?_⟩, ?_,
    fun a ha => Session.question_behind hover ha⟩
  · rw [Sink.value_buffered hend, htext]
  · rw [hsink]
    rfl

def unfinished : List Session.Action :=
  [.event (.figure (some ∅)), .event (.tableRows (some [some "right"]) true), .event (.tableRow ∅),
    .event (.cell .data ∅ .absent), .event .head, .event (.text "x" ∅)]

theorem unfinished_renewed :
    let new := Session.start (.inMemory .usual) 0
    let used := (new.run unfinished).act .resetState |>.after
    let after := [.event (.tableRow ∅), .event (.cell .data ∅ .absent), .event (.text "y" ∅)]
    (∃ t, (new.run unfinished).sink.value = .ok t ∧
        (used.run after).sink.value = .ok (t ++ "<tr class=\"a\"><td>y")) ∧
      (used.run after).sink.state.cellIndex = 0 ∧
      ((used.run after).act .headText).result = .ok (.text "") := by
  intro new used after
  obtain ⟨⟨t, u, ht, hu, hadded⟩, hstate, hanswers⟩ :=
    reset_renews .usual unfinished after (by decide)
  have hnew : (new.run after).sink.value = .ok "<tr class=\"a\"><td>y" := by decide
  have htext : u = "<tr class=\"a\"><td>y" := Except.ok.inj (hu.symm.trans hnew)
  refine ⟨⟨t, ht, by rw [hadded, htext]⟩, ?_, ?_⟩
  · rw [hstate]
    decide
  · exact hanswers .headText fun h => by cases h

end EventMarkup
