import EventMarkup.Proofs.Reading
import EventMarkup.Proofs.Steps

/-!
# Pages that are refused

No event of a page is sent before all of it has been read (`page_read_or_refused`). A page that is
refused fails in a way in which no event fails (`Session.events_not_parsing`), so it can be told
from a page whose events are refused.
-/
namespace EventMarkup

/-! ## Sessions -/

/-- A page is refused in a way in which no event fails. -/
theorem Fault.not_parsing {f : Fault} (h : f.isOfSink = true ∨ f.isOrder = true) :
    f.report.kind ≠ .parsing := by
  cases f with
  | order o => cases o <;> simp [Fault.report, OrderFault.report, Report.order]
  | closedSink | output | unknownEncoding | unknownEvent | noColumn =>
    simp [Fault.report, Report.output, Report.plain]
  | _ => simp [isOfSink, isOrder] at h

namespace Session

theorem event_fault {s : Session} {e : Event} {f : Fault} (h : (s.event e).result = .error f) :
    f.isOfSink = true ∨ f.isOrder = true := by
  obtain ⟨gs, k⟩ := s
  rw [event] at h
  induction gs with
  | nil => exact .inl (Sink.event_isOfSink h)
  | cons g gs ih =>
    rw [pass] at h
    split at h
    · split at h
      · cases h
        exact .inr rfl
      · exact ih h
    · cases h
      exact .inl rfl

theorem events_not_parsing {s : Session} {es : List Event} {f : Fault}
    (h : (s.events es).result = .error f) : f.report.kind ≠ .parsing := by
  induction es generalizing s with
  | nil => cases h
  | cons e es ih =>
    simp only [events, Outcome.bind] at h
    split at h
    · rename_i hfail
      cases h
      exact Fault.not_parsing (event_fault hfail)
    · exact ih h

end Session

open Wiki

/-- **A page is read or refused.** It fails as a page that cannot be read just if some run of its
lines begins with a line that no reader accepts.

Then the fault tells the stage and the number of that line in the first such run, the session is as
it was, and nothing has been sent. Otherwise each run is a block, made of it by the first reader
that accepts its first line, and the session gets the events of the blocks in order. -/
theorem page_read_or_refused (readers : List BlockReader) (t : String) (s : Session) :
    let ls := Text.lines t
    let outcome := s.page readers t
    ((∃ f, outcome.result = .error f ∧ f.report.kind = .parsing) ↔
        ∃ line rest, line :: rest ∈ lineRuns ls ∧ Refused readers line) ∧
      ((∃ before line after f, FirstRefused readers ls before line after ∧
          outcome = .fail s f ∧ f = .unparsed (before.length + 1) line ∧
          f.report.kind = .parsing ∧ f.report.parsingStage = some "block" ∧
          f.report.lineNumber = some (before.length + 1)) ∨
        ∃ blocks c, readBlocks readers (.ofText t) = .ok (blocks, c) ∧
          List.Forall₂ (fun run b => readRun? readers run = some b) (lineRuns ls) blocks ∧
          outcome.result = (s.events (blocks.flatMap Block.events)).result ∧
          outcome.after = (s.events (blocks.flatMap Block.events)).after) := by
  intro ls outcome
  rcases readBlocks_cases readers (.ofText t) with
    ⟨blocks, c, hread, -, hruns⟩ | ⟨before, line, after, hfirst, hread⟩
  · have hresult : outcome.result = (s.events (blocks.flatMap Block.events)).result := by
      simp only [outcome, Session.page, hread]
      rfl
    have hafter : outcome.after = (s.events (blocks.flatMap Block.events)).after := by
      simp only [outcome, Session.page, hread]
      rfl
    refine ⟨⟨?_, ?_⟩, .inr ⟨blocks, c, hread, hruns, hresult, hafter⟩⟩
    · rintro ⟨f, hf, hkind⟩
      exact absurd hkind (Session.events_not_parsing (hresult.symm.trans hf))
    · rintro ⟨line, rest, hrun, hrefused⟩
      exact absurd hrefused (not_refused_of_read hruns hrun)
  · have htotal : Cursor.total (.ofText t) - after.length = before.length + 1 := by
      have hlines := congrArg List.length hfirst.split
      simp only [Cursor.total, Cursor.ofText, List.length_append, List.length_cons,
        List.length_nil] at hlines ⊢
      omega
    have hfail : outcome = .fail s (.unparsed (before.length + 1) line) := by
      simp only [outcome, Session.page, hread, htotal]
    refine ⟨⟨fun _ => ⟨line, _, hfirst.mem_lineRuns, hfirst.refused⟩, fun _ => ?_⟩,
      .inl ⟨before, line, after, _, hfirst, hfail, rfl, rfl, rfl, rfl⟩⟩
    exact ⟨_, congrArg Outcome.result hfail, rfl⟩

end EventMarkup
