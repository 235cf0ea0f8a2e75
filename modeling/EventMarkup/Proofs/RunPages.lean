import EventMarkup.Command.Run
import EventMarkup.Proofs.Deliveries
import EventMarkup.Proofs.JoinedPages
import EventMarkup.Proofs.PlainSession
import EventMarkup.Proofs.RepeatedGuards

/-!
# The page of a run

A run renders one page and closes the session, with a guard if it is strict. The events of a page
are in order, so the guard changes nothing, even if the output fails half way
(`Command.renderPage_strict`). Without it a page arrives as a whole at the file or the standard
output that takes its pieces, and any other reports a failure of the output
(`Session.page_arrives`).
-/
namespace EventMarkup

open Wiki

/-! ## A guard around a page -/

/-- A guard that knows of nothing open adds nothing when a sink is closed. -/
theorem Guard.close_nil (k : Sink) : Guard.close [] k = k.close := by
  rw [close]
  generalize k.close = closed
  obtain ⟨after, notices, result⟩ := closed
  cases result with
  | error f => rfl
  | ok u =>
    show (⟨after, notices ++ [], .ok ()⟩ : Outcome Sink Unit) = ⟨after, notices, .ok ()⟩
    rw [List.append_nil]

namespace Session

/-- Events that a guard accepts come to a sink as if there were no guard. If one of them fails there
the guard is left somewhere on the way. -/
theorem events_accepted {g g' : Guard} {k : Sink} {es : List Event}
    (hv : k.vocabulary = .everything) (hg : g.acceptAll es = .ok g') :
    ∃ left, (⟨[g], k⟩ : Session).events es =
        ((⟨[], k⟩ : Session).events es).within (fun s => ⟨[left], s.sink⟩) ∧
      (((⟨[], k⟩ : Session).events es).result = .ok () → left = g') := by
  induction es generalizing g k with
  | nil => exact ⟨g, rfl, fun _ => Except.ok.inj hg⟩
  | cons e es ih =>
    obtain ⟨g₁, hfirst, hrest⟩ := Guard.acceptAll_cons_ok hg
    have hk : k.vocabulary.knows e = true := by rw [hv]; rfl
    have hv₁ : (k.event e).after.vocabulary = .everything := by rw [Sink.event_vocabulary, hv]
    have hplain : (⟨[], k⟩ : Session).event e = (k.event e).within fun k' => ⟨[], k'⟩ := rfl
    simp only [events, event_accepted hk hfirst, hplain, Outcome.bind, Outcome.within]
    cases hr : (k.event e).result with
    | error f =>
      refine ⟨g₁, rfl, fun h => ?_⟩
      cases h
    | ok u =>
      obtain ⟨left, hevents, hleft⟩ := ih hv₁ hrest
      simp only [hevents]
      exact ⟨left, rfl, hleft⟩

theorem page_accepted {k : Sink} (hv : k.vocabulary = .everything) (t : String) :
    ∃ left, (start k 1).page BlockReader.usual t =
        ((start k 0).page BlockReader.usual t).within (fun s => ⟨[left], s.sink⟩) ∧
      (((start k 0).page BlockReader.usual t).result = .ok () → left = []) := by
  obtain ⟨blocks, c, hread, -⟩ := readBlocks_neat t
  obtain ⟨left, hevents, hleft⟩ := events_accepted hv (acceptAll_events blocks [])
  refine ⟨left, ?_, ?_⟩
  · simp only [start, page, hread, Outcome.bind, List.replicate_succ, List.replicate_zero, hevents]
    rfl
  · intro h
    simp only [start, page, hread, Outcome.bind] at h
    exact hleft h

theorem page_plain {k : Sink} (hv : k.vocabulary = .everything) (t : String) :
    ((start k 0).page BlockReader.usual t).after.guards = [] := by
  obtain ⟨blocks, c, hread, -⟩ := readBlocks_neat t
  have hplain : (⟨[], k⟩ : Session).Plain k.style := ⟨rfl, hv, rfl⟩
  simp only [start, page, hread, Outcome.bind, List.replicate_zero]
  exact (hplain.events _).guards

/-- After a failure a single guard is left like none at all, and so it is if it knows of nothing
open. -/
theorem leave_single {g : Guard} (k : Sink) {failed : Bool} (h : failed = false → g = []) :
    (⟨[g], k⟩ : Session).leave failed = k.close.within fun k => ⟨[g], k⟩ := by
  cases failed with
  | true => rfl
  | false =>
    rw [h rfl, ← Guard.close_nil]
    exact closeUnder_replicate [] k 0

theorem leave_plain (k : Sink) (failed : Bool) :
    (⟨[], k⟩ : Session).leave failed = k.close.within fun k => ⟨[], k⟩ := by
  cases failed <;> rfl

end Session

/-! ## The pieces of a page -/

/-- The texts that a new sink with options sends of a page, one after the other. -/
def Wiki.pieces (o : Options) (t : String) : List String :=
  match readBlocks BlockReader.usual (.ofText t) with
  | .ok (blocks, _) =>
    (Render.output o.style .initial (events blocks)).map (Text.normalize o.lineEnding)
  | .error _ => []

theorem Wiki.join_pieces {o : Options} {n : Nat} {t w : String} (h : RendersAs o n t w) :
    String.join (pieces o t) = w := by
  obtain ⟨blocks, c, hread, hneat⟩ := readBlocks_neat t
  have hvalue := h.2.symm.trans (rendersAs_markup o n hread).2
  rw [pieces, hread]
  exact (output_blocks o.style rfl hneat o.lineEnding).trans (Except.ok.inj hvalue).symm

theorem Sink.sendAll_append (l : Text.LineEnding) (d : Destination) (ts us : List String) :
    sendAll l d (ts ++ us) = (sendAll l d ts).bind fun d _ => sendAll l d us := by
  induction ts generalizing d with
  | nil => simp [sendAll, Outcome.done, Outcome.bind]
  | cons t ts ih =>
    simp only [List.cons_append, sendAll, ih, Outcome.bind]
    cases (send l d t).result with
    | error f => rfl
    | ok u =>
      dsimp only
      cases (sendAll l (send l d t).after ts).result with
      | error f => rfl
      | ok u => simp only [List.append_assoc]

namespace Session

/-- Events send their pieces one after the other and stop at the first that fails. -/
theorem events_sent {k : Sink} (hv : k.vocabulary = .everything) (hc : 0 ≤ k.state.cellIndex)
    (es : List Event) :
    let r := (⟨[], k⟩ : Session).events es
    let sent := Sink.sendAll k.style.lineEnding k.destination (Render.output k.style k.state es)
    r.result = sent.result ∧ r.after.sink.destination = sent.after := by
  induction es generalizing k with
  | nil => exact ⟨rfl, rfl⟩
  | cons e es ih =>
    have hplain : (⟨[], k⟩ : Session).event e = (k.event e).within fun k' => ⟨[], k'⟩ := rfl
    obtain ⟨hresult, hdestination⟩ := Sink.event_writes hv (Render.lookupFault?_none hc e)
    simp only [events, hplain, Render.output, Sink.sendAll_append, Outcome.bind, Outcome.within,
      ← hresult, ← hdestination]
    cases hr : (k.event e).result with
    | error f => exact ⟨rfl, rfl⟩
    | ok u =>
      have hrest := ih ((Sink.event_vocabulary k e).trans hv) (Sink.event_cellIndex hc e)
      rwa [Sink.event_style, Sink.event_state hr] at hrest

theorem page_sent (o : Options) (d : Destination) (t : String) :
    let page := (start (.fresh o d) 0).page BlockReader.usual t
    ∃ ts, ts.map (Text.normalize o.lineEnding) = pieces o t ∧
      page.result = (Sink.sendAll o.lineEnding d ts).result ∧
      page.after.sink.destination = (Sink.sendAll o.lineEnding d ts).after := by
  intro page
  obtain ⟨blocks, c, hread, -⟩ := readBlocks_neat t
  refine ⟨Render.output o.style .initial (Wiki.events blocks), ?_, ?_⟩
  · rw [pieces, hread]
  · simp only [page, start, Session.page, hread, Outcome.bind, List.replicate_zero]
    exact events_sent (k := .fresh o d) rfl (Int.le_refl 0) (Wiki.events blocks)

end Session

/-! ## Where a page goes -/

namespace Destination

/-- Whether all faults of a destination are reported as failures of the output, whatever it received
before. -/
def Reports (d : Destination) : Prop :=
  ∀ sent t f, { d with sent := sent }.item t = .error f → f.report.kind = .output

theorem Reports.sendAll {d : Destination} (h : d.Reports) (hopen : d.closed = false)
    {l : Text.LineEnding} {sent : Array Item} {ts : List String} {f : Fault}
    (hf : (Sink.sendAll l { d with sent := sent } ts).result = .error f) :
    f.report.kind = .output := by
  induction ts generalizing sent with
  | nil => cases hf
  | cons t ts ih =>
    simp only [Sink.sendAll, Sink.send_takes hopen] at hf
    cases hitem : { d with sent := sent }.item (Text.normalize l t) with
    | error g =>
      rw [hitem] at hf
      cases hf
      exact h _ _ _ hitem
    | ok i =>
      rw [hitem] at hf
      exact ih hf

theorem offer_kind {d : Destination} {i : Item} {f : Fault} (h : d.offer i = .error f) :
    f.report.kind = .output := by
  unfold offer at h
  split at h <;> cases h
  rfl

/-- The file that a run opens for its output. -/
def filed (host : Host) (o : Options) (path : String) (place : Place) (codec : Codec) :
    Destination :=
  { channel := .file path place codec, encoding := o.encoding, device := host.file path }

/-- The standard output of a run. -/
def standard (host : Host) (o : Options) : Destination :=
  { channel := .stream .textLayer, encoding := o.encoding, device := host.stream .textLayer,
    others := host.others }

theorem filed_reports (host : Host) (o : Options) (path : String) (place : Place)
    (codec : Codec) : (filed host o path place codec).Reports := by
  intro sent t f hf
  simp only [filed, item, Bool.false_eq_true, if_false] at hf
  split at hf
  · exact offer_kind hf
  · cases hf
    rfl

theorem standard_reports (host : Host) (o : Options) : (standard host o).Reports :=
  fun _ _ _ hf => offer_kind hf

theorem standard_flushFailure (host : Host) (o : Options) (sent : Array Item) :
    { standard host o with sent := sent }.flushFailure? =
      (host.stream .textLayer).refusesFlush sent := Option.none_or

end Destination

theorem Sink.close_result {k : Sink} (hopen : k.destination.closed = false) :
    k.close.result = match k.destination.flushFailure? with
      | some cause => .error (k.destination.failure .close cause)
      | none => .ok () := by
  simp only [close, Destination.close, hopen, Bool.false_eq_true, if_false]
  cases k.destination.flushFailure? <;> rfl

/-- A page arrives as a whole at a destination that takes its pieces and can be flushed then. From
any other it comes back as a fault of the output. -/
theorem Session.page_arrives (o : Options) {d : Destination} (h : d.Reports)
    (hopen : d.closed = false) (hempty : d.sent = #[]) (t : String) :
    let page := (start (.fresh o d) 0).page BlockReader.usual t
    let closed := page.after.sink.close
    (∃ items, d.Takes #[] (pieces o t) items ∧
        { d with sent := items.toArray }.flushFailure? = none ∧
        page.result = .ok () ∧ closed.result = .ok () ∧
        closed.after.destination = { d with sent := items.toArray, closed := true }) ∨
      (∀ items, d.Takes #[] (pieces o t) items →
          { d with sent := items.toArray }.flushFailure? ≠ none) ∧
        ∃ f, Command.lastFault page.result closed.result = .error f ∧ f.report.kind = .output := by
  intro page closed
  obtain ⟨ts, hts, hresult, hafter⟩ := page_sent o d t
  have hd : d = { d with sent := #[] } := by rw [← hempty]
  obtain ⟨htakes, hitems⟩ := Sink.sendAll_takes hopen o.lineEnding #[] ts
  rw [← hd, hts] at htakes hitems
  have htaken {items : List Item} (htake : d.Takes #[] (pieces o t) items) :
      page.after.sink.destination = { d with sent := items.toArray } := by
    rw [hafter, hitems items htake]
    simp
  obtain ⟨received, hkept⟩ := Sink.sendAll_kept o.lineEnding d ts
  have hclose : closed.result = _ :=
    Sink.close_result (k := page.after.sink) (by rw [hafter, hkept]; exact hopen)
  have hclosed (f : Fault) (hf : closed.result = .error f) : f.report.kind = .output := by
    rw [hclose] at hf
    split at hf <;> cases hf
    rfl
  -- the sink is closed in any case, and a fault at its end hides one before
  cases hpage : page.result with
  | error f =>
    refine .inr ⟨fun items htake => ?_, ?_⟩
    · cases (hpage.symm.trans hresult).trans (htakes.mpr ⟨items, htake⟩)
    · cases hlast : closed.result with
      | error g => exact ⟨g, rfl, hclosed g hlast⟩
      | ok u =>
        have hsend : (Sink.sendAll o.lineEnding { d with sent := #[] } ts).result = .error f := by
          rw [← hd, ← hresult, hpage]
        exact ⟨f, rfl, h.sendAll hopen hsend⟩
  | ok u =>
    obtain ⟨items, htake⟩ := htakes.mp (hresult.symm.trans hpage)
    rw [htaken htake] at hclose
    cases hflush : { d with sent := items.toArray }.flushFailure? with
    | none =>
      rw [hflush] at hclose
      refine .inl ⟨items, htake, hflush, rfl, hclose, ?_⟩
      rw [Sink.close_after, htaken htake]
    | some cause =>
      rw [hflush] at hclose
      refine .inr ⟨fun items' htake' hnone => ?_, _, by rw [hclose]; rfl, rfl⟩
      rw [← htaken htake', htaken htake, hflush] at hnone
      cases hnone

namespace Command

/-- A guard changes nothing that a run makes of its page. -/
theorem renderPage_strict {k : Sink} (hv : k.vocabulary = .everything) (strict : Bool)
    (text : String) :
    let page := renderPage k strict text
    let plain := (Session.start k 0).page BlockReader.usual text
    page.notices = plain.notices ∧ page.result = plain.result ∧
      ∀ failed, (failed = false → page.result = .ok ()) → ∃ gs,
        page.after.leave failed = plain.after.sink.close.within fun k => ⟨gs, k⟩ := by
  have hguards := Session.page_plain hv text
  obtain ⟨left, hpage, hleft⟩ := Session.page_accepted hv text
  have hstrict : renderPage k true text = (Session.start k 1).page BlockReader.usual text := rfl
  have hbare : renderPage k false text = (Session.start k 0).page BlockReader.usual text := rfl
  generalize (Session.start k 0).page BlockReader.usual text = plain at *
  obtain ⟨⟨gs, k'⟩, notices, result⟩ := plain
  obtain rfl : gs = [] := hguards
  cases strict with
  | false =>
    rw [hbare]
    exact ⟨rfl, rfl, fun failed _ => ⟨[], Session.leave_plain k' failed⟩⟩
  | true =>
    rw [hstrict, hpage]
    exact ⟨rfl, rfl, fun failed hok => ⟨[left], Session.leave_single k' fun h => hleft (hok h)⟩⟩

end Command

end EventMarkup
