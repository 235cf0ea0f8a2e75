import EventMarkup.Proofs.Accepted
import EventMarkup.Proofs.HeadText
import EventMarkup.Proofs.Mirror

/-!
# Heads in heads

A guard lets a head start in an open head and counts both. A sink only has a flag, which the end of
the inner head takes down. So it is the latest head that keeps text from being written, as long as
it lasts. Once an inner head has ended, the outer one is open and text is written.

* `Render.transitions_headMode`: the flag, told from the events.
* `lastingHead_shields`: a head that lasts is open, and nothing of it is written.
-/
namespace EventMarkup

/-- The flag is up as long as the latest head lasts, whatever else is open. -/
theorem Render.transitions_headMode (st : Style) (es : List Event) :
    (transitions st .initial es).headMode = headLasts es := by
  induction es using List.reverseRecOn with
  | nil => rfl
  | append_singleton es e ih =>
    have hlast : transitions st .initial (es ++ [e]) =
        transition st (transitions st .initial es) e := List.foldl_append
    rw [hlast, headLasts_concat, ← ih]
    cases e <;> simp only [transition_eq]

theorem Moves.opened_head {S S' : List Event} {e : Event} (hm : Moves S e S') (he : e ≠ .headEnd)
    (h : opened S .head = true) : opened S' .head = true := by
  cases hm with
  | leaf => exact h
  | start => rw [opened_cons, h, Bool.or_true]
  | finish hp =>
    cases hp with
    | head => exact absurd rfl he
    | _ => simpa [Event.starts?] using h

theorem Path.opened_of_lasts {es T : List Event} (hp : Path [] es T) (h : headLasts es = true) :
    opened T .head = true := by
  induction es using List.reverseRecOn generalizing T with
  | nil => cases h
  | append_singleton es e ih =>
    obtain ⟨U, hes, hlast⟩ := hp.of_append
    cases hlast with
    | cons hm hnil =>
      cases hnil
      by_cases hhead : e = .head
      · subst hhead
        cases hm with
        | leaf hl => cases hl
        | start => rfl
        | finish hq => cases hq
      · have hend : e ≠ .headEnd := fun he => by simp [headLasts_concat, he] at h
        refine hm.opened_head hend (ih hes ?_)
        rw [headLasts_concat] at h
        cases e <;> simp_all

theorem Matches.mem_names {S : List Event} {g : Guard} {c : Construct} (hS : Matches S g)
    (h : opened S c = true) : c.name ∈ g.names := by
  induction hS with
  | nil => cases h
  | @cons e k S g he _ ih =>
    simp only [opened_cons, Bool.or_eq_true, decide_eq_true_eq, he.starts, Option.some.injEq] at h
    simp only [Guard.names, List.map_cons, List.mem_reverse, List.mem_cons] at ih ⊢
    rcases h with hc | h
    · exact Or.inl (congrArg _ hc.symm)
    · exact Or.inr (ih h)

/-- In head mode an event of running text or structure writes nothing, refused or not. -/
theorem Session.event_flow_value {s : Session} {g : Guard} {e : Event} (hg : s.guards = [g])
    (hv : s.sink.vocabulary = .everything) (he : e.isFlow = true)
    (hs : s.sink.state.headMode = true) : (s.event e).after.sink.value = s.sink.value := by
  obtain ⟨gs, k⟩ := s
  obtain rfl : gs = [g] := hg
  rcases event_guarded g k e with ⟨f, hr⟩ | ⟨g', hr⟩
  · rw [hr]
    rfl
  · rw [hr, Sink.event_flow hv he hs]
    rfl

/-- **The latest head counts.** After any events that a guard accepted, the flag is up just if the
latest head has not ended. As long as it has not, a head is among the open constructs and no event
of running text or structure writes anything. -/
theorem lastingHead_shields (o : Options) (es : List Event)
    (hok : ((Session.start (.inMemory o) 1).events es).result = .ok ()) :
    let s := ((Session.start (.inMemory o) 1).events es).after
    s.sink.state.headMode = headLasts es ∧
      (headLasts es = true →
        (∃ names, s.openConstructs = .ok names ∧ "head" ∈ names) ∧
          ∀ e : Event, e.isFlow = true → (s.event e).after.sink.value = s.sink.value) := by
  intro s
  have ha : Accepted o es s := accepted hok
  have hmode : s.sink.state.headMode = headLasts es := by
    rw [ha.state, Render.transitions_headMode]
  refine ⟨hmode, fun hlasts => ?_⟩
  obtain ⟨g, hg, hS⟩ := ha.guards
  refine ⟨⟨g.names, by rw [Session.openConstructs, hg], ?_⟩, fun e he => ?_⟩
  · exact hS.mem_names (c := .head) (ha.path.opened_of_lasts hlasts)
  · exact Session.event_flow_value hg ha.ready.vocabulary he (hmode.trans hlasts)

def headInHead : List Event :=
  [.head, .text "a" ∅, .elementStart .paragraph ∅, .head, .lineBreak ∅]

theorem headInHead_shields :
    let s := ((Session.start (.inMemory .usual) 1).events headInHead).after
    s.sink.state.headMode = true ∧
      ∀ e : Event, e.isFlow = true → (s.event e).after.sink.value = .ok "" := by
  obtain ⟨hmode, hlasts⟩ := lastingHead_shields .usual headInHead rfl
  have h : headLasts headInHead = true := by decide
  exact ⟨hmode.trans h, fun e he => ((hlasts h).2 e he).trans (by decide)⟩

/-- After the end of an inner head the outer one is open, but the flag is down and text is
written. -/
theorem innerHead_leaks :
    let r := (Session.start (.inMemory .usual) 1).events [.head, .head, .headEnd]
    r.result = .ok () ∧ r.after.openConstructs = .ok ["head"] ∧
      r.after.sink.state.headMode = false ∧ r.after.sink.value = .ok "" ∧
      (r.after.event (.text "x" ∅)).after.sink.value = .ok "x" := by
  exact ⟨rfl, rfl, rfl, by decide, by decide⟩

end EventMarkup
