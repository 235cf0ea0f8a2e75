import EventMarkup.Proofs.Steps

/-!
# A guard is transparent

A guard over a sink shows in two ways only. The events that it refuses leave its open constructs,
the state of the sink and the text written as they were. To the sink the run looks like one to which
these events were never sent: it is in the same state before and after every other event, writes the
same text and gives the same results.

The sink is arbitrary: it may be closed, its target may fail, and its state may be any.
-/
namespace EventMarkup

/-- The steps that were not refused. -/
def passed {σ : Type} (xs : List (Step σ)) : List (Step σ) := xs.filter fun x => !x.refused

section
variable {σ : Type} (x : Step σ) (xs : List (Step σ))

theorem passed_cons_refused (h : x.refused = true) : passed (x :: xs) = passed xs := by
  simp [passed, h]

theorem passed_cons (h : x.refused = false) : passed (x :: xs) = x :: passed xs := by
  simp [passed, h]

end

theorem refused_unchanged (g : Guard) (k : Sink) (es : List Event) :
    ∀ x ∈ steps Session.event ⟨[g], k⟩ es, x.refused = true →
      ∃ f, x.outcome = .fail x.before (.order f) := by
  induction es generalizing g k with
  | nil => intro x hx; cases hx
  | cons e es ih =>
    intro x hx hr
    rcases Session.event_guarded g k e with ⟨f, he⟩ | ⟨g', he⟩ <;>
      rw [steps_cons, he, List.mem_cons] at hx
    · rcases hx with rfl | hx
      · exact ⟨f, rfl⟩
      · exact ih g k x hx hr
    · rcases hx with rfl | hx
      · rw [Step.refused_within] at hr; cases hr
      · exact ih g' (k.event e).after x hx hr

/-- What the sink sees of a run under a guard: a run of the events that were not refused. -/
theorem passed_steps (g : Guard) (k : Sink) (es : List Event) :
    let kept := passed (steps Session.event ⟨[g], k⟩ es)
    kept.map (Step.map Session.sink) = steps Sink.event k (kept.map Step.event) ∧
      (final Session.event ⟨[g], k⟩ es).sink = final Sink.event k (kept.map Step.event) := by
  induction es generalizing g k with
  | nil => exact ⟨rfl, rfl⟩
  | cons e es ih =>
    rcases Session.event_guarded g k e with ⟨f, he⟩ | ⟨g', he⟩
    · rw [steps_cons, final_cons, he, passed_cons_refused _ _ rfl]
      exact ih g k
    · rw [steps_cons, final_cons, he, passed_cons _ _ (Step.refused_within _ k e _)]
      obtain ⟨hs, hf⟩ := ih g' (k.event e).after
      refine ⟨?_, hf⟩
      simp only [List.map_cons, steps_cons, List.cons.injEq]
      exact ⟨rfl, hs⟩

/-- **Transparency.** In a run of any events under a fresh guard, a refused event changes nothing,
and the steps that were not refused are, in the sink, those of a run of their events without the
guard. -/
theorem guard_transparent (k : Sink) (es : List Event) :
    let run := steps Session.event (.start k 1) es
    let kept := passed run
    (∀ x ∈ run, x.refused = true → ∃ f, x.outcome = .fail x.before (.order f)) ∧
      kept.map (Step.map Session.sink) = steps Sink.event k (kept.map Step.event) ∧
      ((Session.start k 1).run (es.map .event)).sink =
        final Sink.event k (kept.map Step.event) := by
  refine ⟨refused_unchanged [] k es, (passed_steps [] k es).1, ?_⟩
  rw [Session.run_events]
  exact (passed_steps [] k es).2

end EventMarkup
