import EventMarkup.Proofs.Output
import EventMarkup.Proofs.SinkUse

/-!
# Nothing is written after the end

A sink is closed by the first attempt to close it, even if that fails, and for good: from then on
its destination never changes, and whatever would write is refused.

The text of a sink's own buffer is told by what was written before that moment, and stays there to
be read. `Session.written` collects these texts along a run: what guards keep away is not written,
and each event writes the pieces of its reaction.
-/
namespace EventMarkup

namespace Session

/-! ## Texts that are written -/

/-- Whether all guards let an event pass. -/
def admits (s : Session) (e : Event) : Bool := s.guards.all fun g => (g.accept e).isOk

/-- The texts that events write one after the other, up to the first that a guard refuses. -/
def texts (s : Session) : List Event → List String
  | [] => []
  | e :: es =>
    if s.admits e then
      (Render.respond s.sink.style s.sink.state e).pieces ++ (s.event e).after.texts es
    else []

/-- The texts that an action writes. -/
def actionTexts (s : Session) : Action → List String
  | .event e => s.texts [e]
  | .write t => [t]
  | .page t =>
    match Wiki.readBlocks Wiki.BlockReader.usual (.ofText t) with
    | .error _ => []
    | .ok (blocks, _) => s.texts (Wiki.events blocks)
  | _ => []

/-- The texts that a run writes before it first closes the sink. -/
def written (s : Session) : List Action → List String
  | [] => []
  | a :: as => if a.isClosing then [] else s.actionTexts a ++ (s.act a).after.written as

/-! ## Events -/

/-- An event that all guards let pass reaches the sink; any other is out of order. -/
theorem event_cases {s : Session} {e : Event} (hk : s.sink.vocabulary.knows e = true) :
    (s.admits e = true ∧ ∃ gs, s.event e = (s.sink.event e).within fun k => ⟨gs, k⟩) ∨
      (s.admits e = false ∧ ∃ gs f, s.event e = .fail ⟨gs, s.sink⟩ (.order f)) := by
  obtain ⟨gs, k⟩ := s
  induction gs with
  | nil => exact Or.inl ⟨rfl, [], rfl⟩
  | cons g gs ih =>
    have hk' : (checksFirst e || k.vocabulary.knows e) = true := by simp_all
    cases hg : g.accept e with
    | error f =>
      refine Or.inr ⟨by simp [admits, hg, Except.isOk, Except.toBool], g :: gs, f, ?_⟩
      simp only [event, pass, hk', if_true, hg]
    | ok g' =>
      have hadmits : (⟨g :: gs, k⟩ : Session).admits e = (⟨gs, k⟩ : Session).admits e := by
        simp [admits, hg, Except.isOk, Except.toBool]
      have hpass : (⟨g :: gs, k⟩ : Session).event e =
          ((⟨gs, k⟩ : Session).event e).within fun s => ⟨g' :: s.guards, s.sink⟩ := by
        simp only [event, pass, hk', if_true, hg]
      rw [hadmits, hpass]
      rcases ih hk with ⟨ha, gs', he⟩ | ⟨ha, gs', f, he⟩
      · exact Or.inl ⟨ha, g' :: gs', by rw [he]; rfl⟩
      · exact Or.inr ⟨ha, g' :: gs', f, by rw [he]; rfl⟩

end Session

/-! ## The text of a buffer -/

/-- A sink with an open buffer that writes in a style and finds the column of each cell. -/
structure Sink.Live (st : Style) (k : Sink) : Prop where
  ready : k.Ready
  style : k.style = st
  cells : 0 ≤ k.state.cellIndex

/-- Texts as they come into a buffer, with their line endings made uniform. -/
def Style.flat (st : Style) (ts : List String) : String :=
  String.join (ts.map (Text.normalize st.lineEnding))

theorem Style.flat_append (st : Style) (ts us : List String) :
    st.flat (ts ++ us) = st.flat ts ++ st.flat us := by
  rw [flat, List.map_append, String.join_append, flat, flat]

section
variable {st : Style} {k : Sink} (h : k.Live st)
include h

theorem Sink.Live.event (e : Event) :
    (k.event e).result = .ok () ∧ (k.event e).after.Live st ∧
      (k.event e).after.destination.text =
        k.destination.text ++ st.flat (Render.respond st k.state e).pieces := by
  obtain ⟨hr, hready, ht⟩ := h.ready.event (Render.lookupFault?_none h.cells e)
  have hstyle : (k.event e).after.style = st := by rw [event_style, h.style]
  rw [h.style] at ht
  exact ⟨hr, ⟨hready, hstyle, event_cellIndex h.cells e⟩, ht⟩

theorem Sink.Live.write (t : String) :
    (k.write t).after.Live st ∧
      (k.write t).after.destination.text = k.destination.text ++ st.flat [t] := by
  have hwrite := h.ready.buffer.send k.style.lineEnding t
  simp only [Sink.write, hwrite, Outcome.done, Outcome.within]
  refine ⟨⟨⟨h.ready.vocabulary, ⟨h.ready.buffer.channel, h.ready.buffer.closed⟩⟩, h.style,
    h.cells⟩, ?_⟩
  simp [Destination.text, Item.chars, Style.flat, h.style]

end

namespace Session

variable {st : Style}

theorem texts_refused {s : Session} {e : Event} {es : List Event} (h : s.admits e = false) :
    s.texts (e :: es) = [] := by
  simp [texts, h]

theorem events_written {s : Session} (h : s.sink.Live st) (es : List Event) :
    (s.events es).after.sink.Live st ∧
      (s.events es).after.sink.destination.text =
        s.sink.destination.text ++ st.flat (s.texts es) := by
  induction es generalizing s with
  | nil => exact ⟨h, by simp [events, texts, Style.flat, Outcome.done]⟩
  | cons e es ih =>
    have hk : s.sink.vocabulary.knows e = true := by rw [h.ready.vocabulary]; rfl
    rcases event_cases hk with ⟨ha, gs, he⟩ | ⟨ha, gs, f, he⟩
    · obtain ⟨hr, hlive, ht⟩ := h.event e
      obtain ⟨hlive', ht'⟩ := ih (s := (s.event e).after) (by rw [he]; exact hlive)
      have hr' : (s.event e).result = .ok () := by rw [he]; exact hr
      have hsink : (s.event e).after.sink = (s.sink.event e).after := by rw [he]; rfl
      simp only [events, Outcome.bind, hr', texts, ha, if_true]
      refine ⟨hlive', ?_⟩
      rw [ht', hsink, ht, Style.flat_append, h.style, String.append_assoc]
    · have hempty : s.sink.destination.text ++ st.flat [] = s.sink.destination.text := by
        simp [Style.flat]
      simp only [events, Outcome.bind, he, Outcome.fail, texts_refused ha, hempty]
      exact ⟨h, trivial⟩

theorem events_singleton (s : Session) (e : Event) : (s.events [e]).after = (s.event e).after := by
  simp only [events, Outcome.bind]
  cases (s.event e).result <;> rfl

theorem act_written {s : Session} (h : s.sink.Live st) {a : Action} (ha : a.isClosing = false) :
    (s.act a).after.sink.Live st ∧
      (s.act a).after.sink.destination.text =
        s.sink.destination.text ++ st.flat (s.actionTexts a) := by
  have hempty : s.sink.destination.text = s.sink.destination.text ++ st.flat [] := by
    simp [Style.flat]
  cases a with
  | event e =>
    have hafter : (s.act (.event e)).after = (s.events [e]).after := (s.events_singleton e).symm
    rw [hafter]
    exact s.events_written h [e]
  | write t => exact h.write t
  | page t =>
    simp only [act, page, actionTexts]
    cases Wiki.readBlocks Wiki.BlockReader.usual (.ofText t) with
    | error f => exact ⟨h, hempty⟩
    | ok read => exact s.events_written h (Wiki.events read.1)
  | flush =>
    have hsink : (s.act .flush).after.sink = s.sink := by
      simp only [act, onSink, Sink.flush, Outcome.within, Outcome.map, Destination.flush_after]
    rw [hsink]
    exact ⟨h, hempty⟩
  | resetState =>
    exact ⟨⟨⟨h.ready.vocabulary, h.ready.buffer⟩, h.style, Int.le_refl 0⟩, hempty⟩
  | consumeHead =>
    have hv : s.sink.vocabulary.hasHead = true := by rw [h.ready.vocabulary]; rfl
    simp only [act, onSink, Sink.consumeHead, hv, if_true]
    exact ⟨⟨⟨h.ready.vocabulary, h.ready.buffer⟩, h.style, h.cells⟩, hempty⟩
  | close | leave => cases ha
  | _ => exact ⟨h, hempty⟩

/-- A closed sink keeps its destination as it is, whatever is asked of its session. -/
theorem run_frozen (s : Session) (h : s.sink.closed = true) (as : List Action) :
    (s.run as).sink.destination = s.sink.destination := by
  refine run_keeps (P := fun k => k.destination = s.sink.destination) ?_ s (fun _ => ?_) rfl
  · intro k k' hu hk
    rw [hu.frozen (by rw [Sink.closed, hk]; exact h), hk]
  · intro k hk
    have hc : k.destination.closed = true := by rw [hk]; exact h
    rw [Sink.close_after, ← hc]
    exact hk

/-- The buffer of a session holds what was written before it was closed. -/
theorem run_written {s : Session} (h : s.sink.Live st) (as : List Action) :
    (s.run as).sink.destination.channel = .buffer ∧
      (s.run as).sink.destination.text = s.sink.destination.text ++ st.flat (s.written as) := by
  induction as generalizing s with
  | nil => exact ⟨h.ready.buffer.channel, by simp [run, written, Style.flat]⟩
  | cons a as ih =>
    cases ha : a.isClosing with
    | true =>
      -- the rest of the run writes nothing, and the sink is frozen from here on
      have hclosed : (s.act a).after.sink.destination =
          { s.sink.destination with closed := true } := by
        rw [s.act_closing ha, Sink.close_after]
      have hfrozen := run_frozen (s.act a).after (by rw [Sink.closed, hclosed]) as
      rw [run, hfrozen, hclosed, written, ha, if_pos rfl]
      exact ⟨h.ready.buffer.channel, by simp [Destination.text, Style.flat]⟩
    | false =>
      obtain ⟨hlive, ht⟩ := act_written h ha
      obtain ⟨hchannel, hrest⟩ := ih hlive
      refine ⟨hchannel, ?_⟩
      rw [run, hrest, ht, written, ha, String.append_assoc, ← Style.flat_append]
      rfl

/-! ## After the end -/

/-- A sink that knows all events and finds the column of each cell. -/
def Steady (k : Sink) : Prop := k.vocabulary = .everything ∧ 0 ≤ k.state.cellIndex

theorem run_steady {s : Session} (h : Steady s.sink) (as : List Action) :
    Steady (s.run as).sink := by
  refine run_keeps (fun k k' hu hk => ⟨?_, hu.cellIndex_nonneg hk.2⟩) s (fun _ k hk => hk) h
  obtain ⟨items, state, rfl⟩ := hu.kept
  exact hk.1

theorem event_closed {s : Session} {e : Event} (h : Steady s.sink) (hc : s.sink.closed = true)
    (he : (Render.respond s.sink.style s.sink.state e).pieces ≠ []) :
    ∃ f, (s.event e).result = .error f ∧ .rendering ∈ f.report.kind.lineage ∧
      (s.admits e = true → f = .closedSink) := by
  have hk : s.sink.vocabulary.knows e = true := by rw [h.1]; rfl
  rcases event_cases hk with ⟨-, gs, hevent⟩ | ⟨ha, gs, f, hevent⟩
  · have hresult : (s.sink.event e).result = .error .closedSink := by
      rw [Sink.event_eq_perform h.1 (Render.lookupFault?_none h.2 e)]
      simp only [Sink.perform, Sink.sendAll_closed _ hc, if_neg he]
      rfl
    exact ⟨.closedSink, by rw [hevent]; exact hresult, by decide, fun _ => rfl⟩
  · refine ⟨.order f, by rw [hevent]; rfl, ?_, fun hadmits => ?_⟩
    · have hkind : (Fault.order f).report.kind = .order := by cases f <;> rfl
      rw [hkind]
      decide
    · rw [ha] at hadmits
      cases hadmits

end Session

/-- **Nothing is written after the end.** Let anything be asked of a session over any destination,
then to close it or to leave its scope, and then anything again. The destination is closed by that
attempt, failed or not, and is otherwise as it was before it; closing the sink once more has no
effect and goes well; a text cannot be written, and an event that would write fails with an error of
rendering, which is that the sink is closed unless a guard refuses the event before.

What is read from a sink's own buffer is at every moment all that was written before it was closed,
in order and with line endings made uniform. -/
theorem closed_for_good (o : Options) (d : Destination) (guards : Nat)
    (before after as : List Session.Action) {c : Session.Action} (hc : c.isClosing = true) :
    let s := (Session.start (.fresh o d) guards).run before
    let t := (s.act c).after.run after
    let own := Session.start (.inMemory o) guards
    t.sink.destination = { s.sink.destination with closed := true } ∧
      t.sink.close = .done t.sink () ∧
      (∀ text, (t.act (.write text)).result = .error .closedSink) ∧
      (∀ e, (Render.respond t.sink.style t.sink.state e).pieces ≠ [] →
        ∃ f, (t.act (.event e)).result = .error f ∧ .rendering ∈ f.report.kind.lineage ∧
          (t.admits e = true → f = .closedSink)) ∧
      (own.run as).sink.value = .ok (o.style.flat (own.written as)) := by
  intro s t own
  have hclosing :
      (s.act c).after.sink.destination = { s.sink.destination with closed := true } := by
    rw [s.act_closing hc, Sink.close_after]
  have hfrozen : t.sink.destination = { s.sink.destination with closed := true } :=
    (Session.run_frozen _ (by rw [Sink.closed, hclosing]) after).trans hclosing
  have hclosed : t.sink.closed = true := by rw [Sink.closed, hfrozen]
  have hsteady : Session.Steady t.sink := by
    refine Session.run_steady ?_ after
    rw [s.act_closing hc]
    exact Session.run_steady (s := .start (.fresh o d) guards) ⟨rfl, Int.le_refl 0⟩ before
  refine ⟨hfrozen, ?_, fun text => ?_, fun e he => ?_, ?_⟩
  · have hclosed' : t.sink.destination.closed = true := hclosed
    rw [Sink.close, Destination.close, if_pos hclosed']
    rfl
  · simp only [Session.act, Session.onSink, Sink.write, Sink.send_closed _ hclosed]
    rfl
  · obtain ⟨f, hf, hrest⟩ := Session.event_closed hsteady hclosed he
    exact ⟨f, by simp only [Session.act, Outcome.map, hf]; rfl, hrest⟩
  · have hlive : own.sink.Live o.style := ⟨Sink.inMemory_ready o, rfl, Int.le_refl 0⟩
    obtain ⟨hchannel, htext⟩ := Session.run_written hlive as
    rw [Sink.value, Destination.value, hchannel, htext]
    simp [own, Session.start, Sink.inMemory, Sink.fresh, Destination.text]

/-- A borrowed stream that cannot be flushed, and so not be released without a failure. -/
def unflushable : Destination :=
  { channel := .stream { Stream.memoryText with flushFailure := some .broken }
    encoding := "utf-8" }

/-- Two guards with a paragraph open are left after a failure over a stream that cannot be flushed:
the attempt fails, and yet nothing is written from then on. -/
theorem unflushable_closed :
    let s := (Session.start (.fresh .usual unflushable) 2).run
      [.write "a", .event (.elementStart .paragraph ∅)]
    let t := (s.act (.leave true)).after.run [.event (.text "b" ∅), .flush, .close]
    let own := (Session.start (.inMemory .usual) 2).run
      [.write "a\r", .event .linkEnd, .event (.text "<" ∅), .leave false, .write "b", .value]
    (s.act (.leave true)).result = .error (.output none .close .broken) ∧
      t.sink.destination.sent = #[.text "a", .text "<p>"] ∧ t.sink.closed = true ∧
      (t.act (.write "c")).result = .error .closedSink ∧
      (t.act (.event (.elementEnd .paragraph))).result = .error .closedSink ∧
      own.sink.value = .ok "a\n&lt;" := by
  intro s t own
  obtain ⟨hdestination, -, hwrite, hevent, hvalue⟩ :=
    closed_for_good .usual unflushable 2 [.write "a", .event (.elementStart .paragraph ∅)]
      [.event (.text "b" ∅), .flush, .close]
      [.write "a\r", .event .linkEnd, .event (.text "<" ∅), .leave false, .write "b", .value]
      (c := .leave true) rfl
  obtain ⟨f, hf, -, hadmitted⟩ := hevent (.elementEnd .paragraph) (by decide)
  refine ⟨rfl, ?_, ?_, hwrite "c", ?_, ?_⟩
  · rw [hdestination]
    decide
  · rw [Sink.closed, hdestination]
  · rw [hf, hadmitted (by decide)]
  · rw [hvalue]
    decide

end EventMarkup
