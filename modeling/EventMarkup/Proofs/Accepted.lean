import EventMarkup.Proofs.Enclosure
import EventMarkup.Proofs.Output

/-!
# Accepted runs

Events that a guard over a buffer accepts all go well: they lead from one enclosure to the next,
and the sink is as if it had received them without a guard (`accepted`).
-/
namespace EventMarkup

/-! ## Paths taken apart -/

section
variable {S T : List Event}

theorem Path.foldl_enclose {es : List Event} (h : Path S es T) : es.foldl enclose S = T := by
  induction h with
  | nil => rfl
  | cons hm _ ih => rw [List.foldl_cons, hm.enclose, ih]

theorem Path.of_append {xs ys : List Event} (h : Path S (xs ++ ys) T) :
    ∃ U, Path S xs U ∧ Path U ys T := by
  induction xs generalizing S with
  | nil => exact ⟨S, .nil, h⟩
  | cons x xs ih =>
    cases h with
    | cons hm hp =>
      obtain ⟨U, hxs, hys⟩ := ih hp
      exact ⟨U, .cons hm hxs, hys⟩

/-- Each event of a path moves the enclosure of the events before it. -/
theorem Path.moves {pre post : List Event} {e : Event} (h : Path [] (pre ++ e :: post) T) :
    ∃ S', Moves (enclosure pre) e S' := by
  obtain ⟨U, hpre, hrest⟩ := h.of_append
  cases hrest with
  | cons hm _ => exact ⟨_, by rwa [enclosure, hpre.foldl_enclose]⟩

end

/-! ## Runs in which all goes well -/

theorem Sink.final_style (k : Sink) (es : List Event) : (final event k es).style = k.style := by
  induction es generalizing k with
  | nil => rfl
  | cons e es ih => rw [final_cons, ih, event_style]

theorem Sink.final_vocabulary (k : Sink) (es : List Event) :
    (final event k es).vocabulary = k.vocabulary := by
  induction es generalizing k with
  | nil => rfl
  | cons e es ih => rw [final_cons, ih, event_vocabulary]

theorem Sink.final_state {k : Sink} {es : List Event}
    (h : ∀ x ∈ steps event k es, x.outcome.result = .ok ()) :
    (final event k es).state = Render.transitions k.style k.state es := by
  induction es generalizing k with
  | nil => rfl
  | cons e es ih =>
    rw [steps_cons, List.forall_mem_cons] at h
    obtain ⟨hfirst, hrest⟩ := h
    rw [final_cons, ih hrest, event_state hfirst, event_style]
    rfl

theorem Sink.lookup_of_ok {k : Sink} {e : Event} (hv : k.vocabulary = .everything)
    (h : (k.event e).result = .ok ()) : Render.lookupFault? k.state e = none := by
  have hk : k.vocabulary.knows e = true := by rw [hv]; rfl
  simp only [event, hk, if_true] at h
  split at h
  · cases h
  · assumption

/-- An event of a run that goes well writes what it writes in the state that the events before it
lead to. -/
theorem Sink.writes_within {k : Sink} (hv : k.vocabulary = .everything) {pre post : List Event}
    {e : Event} (h : ∀ x ∈ steps event k (pre ++ e :: post), x.outcome.result = .ok ()) :
    (final event k pre).Writes e
      (Render.respond k.style (Render.transitions k.style k.state pre) e).pieces := by
  rw [steps_append, List.forall_mem_append, steps_cons, List.forall_mem_cons] at h
  obtain ⟨hpre, he, -⟩ := h
  have hv' : (final event k pre).vocabulary = .everything := (final_vocabulary k pre).trans hv
  have hwrites := event_writes hv' (lookup_of_ok hv' he)
  rwa [final_style, final_state hpre] at hwrites

namespace Session

theorem events_append_ok {s : Session} {xs ys : List Event}
    (h : (s.events (xs ++ ys)).result = .ok ()) : (s.events xs).result = .ok () := by
  induction xs generalizing s with
  | nil => rfl
  | cons x xs ih =>
    obtain ⟨hx, hxs, -⟩ := events_cons_ok h
    simp only [events, Outcome.bind, hx]
    exact ih hxs

/-- Events that all go well under a guard follow a path, and all go well on the sink alone. -/
theorem events_path {S es : List Event} {g : Guard} {k : Sink} (hS : Matches S g)
    (hv : k.vocabulary = .everything) (hok : ((⟨[g], k⟩ : Session).events es).result = .ok ()) :
    ∃ T g', Path S es T ∧ Matches T g' ∧
      (∀ x ∈ steps Sink.event k es, x.outcome.result = .ok ()) ∧
      ((⟨[g], k⟩ : Session).events es).after = ⟨[g'], final Sink.event k es⟩ := by
  induction es generalizing S g k with
  | nil => exact ⟨S, g, .nil, hS, fun _ hx => (List.not_mem_nil hx).elim, rfl⟩
  | cons e es ih =>
    obtain ⟨he, hes, hlast⟩ := events_cons_ok hok
    have hk : k.vocabulary.knows e = true := by rw [hv]; rfl
    obtain ⟨g₁, ha, hs, hafter⟩ := event_ok hk he
    obtain ⟨S₁, hm, hg⟩ := accept_moves hS ha
    rw [hafter] at hes hlast
    obtain ⟨T, g', hp, hT, hall, hend⟩ := ih hg (by rw [Sink.event_vocabulary, hv]) hes
    refine ⟨T, g', .cons hm hp, hT, ?_, hlast.trans hend⟩
    rw [steps_cons, List.forall_mem_cons]
    exact ⟨hs, hall⟩

/-- Under a fresh guard a sink becomes what it becomes alone, as long as all goes well. -/
theorem start_ok {k : Sink} {es : List Event} (hv : k.vocabulary = .everything)
    (hok : ((start k 1).events es).result = .ok ()) :
    (∀ x ∈ steps Sink.event k es, x.outcome.result = .ok ()) ∧
      ((start k 1).events es).after.sink = final Sink.event k es := by
  obtain ⟨_, _, -, -, hall, hafter⟩ := events_path .nil hv hok
  have hstart : start k 1 = ⟨[[]], k⟩ := rfl
  rw [hstart, hafter]
  exact ⟨hall, rfl⟩

section
variable {k : Sink} (hv : k.vocabulary = .everything)
include hv

theorem state_within {xs ys : List Event} (hok : ((start k 1).events (xs ++ ys)).result = .ok ()) :
    ((start k 1).events xs).after.sink.state = Render.transitions k.style k.state xs := by
  obtain ⟨hall, hsink⟩ := start_ok hv (events_append_ok hok)
  rw [hsink, Sink.final_state hall]

theorem writes_within {xs ys : List Event} {e : Event}
    (hok : ((start k 1).events (xs ++ e :: ys)).result = .ok ()) :
    ((start k 1).events xs).after.sink.Writes e
      (Render.respond k.style (Render.transitions k.style k.state xs) e).pieces := by
  obtain ⟨-, hsink⟩ := start_ok hv (events_append_ok hok)
  rw [hsink]
  exact Sink.writes_within hv (start_ok hv hok).1

end

end Session

/-! ## Runs over a buffer -/

/-- A session after events that a guard accepted over a buffer. -/
structure Accepted (o : Options) (es : List Event) (s : Session) : Prop where
  path : Path [] es (enclosure es)
  guards : ∃ g, s.guards = [g] ∧ Matches (enclosure es) g
  ready : s.sink.Ready
  style : s.sink.style = o.style
  state : s.sink.state = Render.transitions o.style .initial es
  value : s.sink.value = .ok (String.join
    ((Render.output o.style .initial es).map (Text.normalize o.style.lineEnding)))

theorem accepted {o : Options} {es : List Event}
    (hok : ((Session.start (.inMemory o) 1).events es).result = .ok ()) :
    Accepted o es ((Session.start (.inMemory o) 1).events es).after := by
  obtain ⟨T, g, hp, hT, hall, hafter⟩ := Session.events_path .nil rfl hok
  obtain rfl : enclosure es = T := hp.foldl_enclose
  obtain ⟨-, hready, htext⟩ := (Sink.inMemory_ready o).run
    (Render.columnsFound_of_nonneg (Int.le_refl 0) es)
  have hstart : (Session.start (.inMemory o) 1).events es =
      (⟨[[]], .inMemory o⟩ : Session).events es := rfl
  rw [hstart, hafter]
  exact ⟨hp, ⟨g, rfl, hT⟩, hready, Sink.final_style _ es, Sink.final_state hall,
    hready.value.trans (congrArg Except.ok (htext.trans (String.empty_append ..)))⟩

theorem accepted_append {o : Options} {xs ys : List Event}
    (hok : ((Session.start (.inMemory o) 1).events (xs ++ ys)).result = .ok ()) :
    ∃ t, ((Session.start (.inMemory o) 1).events xs).after.sink.value = .ok t ∧
      ((Session.start (.inMemory o) 1).events (xs ++ ys)).after.sink.value = .ok (t ++ String.join
        ((Render.output o.style (Render.transitions o.style .initial xs) ys).map
          (Text.normalize o.style.lineEnding))) := by
  refine ⟨_, (accepted (Session.events_append_ok hok)).value, ?_⟩
  rw [(accepted hok).value, Render.output_append, List.map_append, String.join_append]

/-! ## Acceptance without a sink -/

theorem Path.acceptAll {S T es : List Event} {g : Guard} (hp : Path S es T) (hS : Matches S g) :
    ∃ g', g.acceptAll es = .ok g' ∧ Matches T g' := by
  induction hp generalizing g with
  | nil => exact ⟨g, rfl, hS⟩
  | cons hm _ ih =>
    obtain ⟨g₁, ha, hg⟩ := hm.accept hS
    obtain ⟨g', hrest, hT⟩ := ih hg
    refine ⟨g', ?_, hT⟩
    rw [Guard.acceptAll, List.foldlM_cons, ha]
    exact hrest

theorem Path.events_ok {es T : List Event} (hp : Path [] es T) (o : Options) :
    ((Session.start (.inMemory o) 1).events es).result = .ok () := by
  obtain ⟨g, hg, -⟩ := hp.acceptAll .nil
  obtain ⟨hall, -⟩ := (Sink.inMemory_ready o).run
    (Render.columnsFound_of_nonneg (Int.le_refl 0) es)
  exact (Session.events_allAccept rfl (.cons hg .nil) hall).1

end EventMarkup
