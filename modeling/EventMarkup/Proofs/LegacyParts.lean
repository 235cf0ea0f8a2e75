import EventMarkup.Proofs.Accepted
import EventMarkup.Proofs.Grammar
import EventMarkup.Proofs.Mirror
import EventMarkup.Proofs.TagNames

/-!
# Parts of legacy figures

A guard refuses a part with attributes only where a legacy figure is the construct opened last. A
caption stands directly in its figure, so none with attributes gets into a legacy figure. Graphics
may stand anywhere: in a paragraph in a legacy figure the guard lets them pass, and they are written
as a whole image tag inside the one that the figure has begun.

* `figureOf_legacy_iff`: when the innermost figure is a legacy figure.
* `output_legacy`: what the constructs and texts in a legacy figure write holds an image tag just if
  graphics with attributes are among them.
* `legacyParts_bare_iff`: so graphics within other constructs are all that gets past the guard.
-/
namespace EventMarkup

open Render

/-! ## The innermost figure -/

/-- The innermost figure is a legacy figure if one is open with no figure open within it. -/
theorem figureOf_legacy_iff {S : List Event} :
    figureOf S = some .legacy ↔
      ∃ T R, S = T ++ .figure none :: R ∧ opened T .figure = false := by
  constructor
  · intro h
    obtain ⟨T, f, R, rfl, hf, hT⟩ := List.findSome?_eq_some_iff.mp h
    refine ⟨T, R, ?_, ?_⟩
    · cases f with
      | figure m => cases m <;> simp_all [conventionOf]
      | _ => cases hf
    · refine List.any_eq_false.mpr fun e he => ?_
      have hnone := hT e he
      cases e <;> simp_all [Event.starts?]
  · rintro ⟨T, R, rfl, hT⟩
    have hnone : figureOf T = none := figureOf_none hT
    unfold figureOf at hnone ⊢
    rw [List.findSome?_append, hnone]
    rfl

theorem caption_not_legacy {S : List Event} {m : Mapping}
    (hf : fits S.head? (.figureCaption (some m)) = true) : figureOf S ≠ some .legacy := by
  simp only [fits, Option.isNone_some, Bool.false_or, Bool.and_eq_true, decide_eq_true_eq] at hf
  obtain ⟨hin, hout⟩ := hf
  cases S with
  | nil => cases hin
  | cons f S =>
    have hk : f.starts? = some .figure := of_decide_eq_true hin
    cases f with
    | figure o =>
      cases o with
      | none => exact absurd rfl hout
      | some o =>
        intro h
        cases h
    | _ => cases hk

theorem Moves.part_fits {S S' : List Event} {e : Event} (hm : Moves S e S')
    (he : e.isAttributedPart = true) : fits S.head? e = true := by
  cases hm with
  | leaf _ hf => exact hf
  | start _ hf => exact hf
  | finish hp => cases hp <;> cases he

/-- In events in order no part with attributes stands in a legacy figure, unless graphics do that
stand in another construct in it. -/
theorem Path.bare_iff {es T : List Event} (hp : Path [] es T) :
    (∀ pre e post, es = pre ++ e :: post → e.isAttributedPart = true →
        figureOf (enclosure pre) ≠ some .legacy) ↔
      ∀ pre source m post, es = pre ++ .figureGraphics source (some m) :: post →
        ∀ X R, enclosure pre = X ++ .figure none :: R → X ≠ [] → opened X .figure = true := by
  constructor
  · intro h pre source m post hes X R hX _
    by_contra hno
    have hlegacy := figureOf_legacy_iff.mpr ⟨X, R, hX, Bool.eq_false_iff.mpr hno⟩
    exact h pre _ post hes rfl hlegacy
  · intro h pre e post hes he hlegacy
    rw [hes] at hp
    obtain ⟨S', hm⟩ := hp.moves
    have hfit := hm.part_fits he
    cases e with
    | figureCaption m =>
      obtain ⟨m, rfl⟩ := Option.isSome_iff_exists.mp he
      exact caption_not_legacy hfit hlegacy
    | figureGraphics source m =>
      obtain ⟨m, rfl⟩ := Option.isSome_iff_exists.mp he
      obtain ⟨X, R, hX, hno⟩ := figureOf_legacy_iff.mp hlegacy
      have hne : X ≠ [] := by
        rintro rfl
        -- the figure would be the construct opened last, and the guard looks at that
        simp [fits, hX] at hfit
      rw [h pre source m post hes X R hX hne] at hno
      cases hno
    | _ => cases he

/-! ## What a legacy figure holds -/

theorem Document.no_figureEnd {o : Option Event} {es : List Event} (hd : Document o es)
    (h : ∀ m, .figure m ∉ es) : .figureEnd ∉ es := by
  intro he
  rcases hd.placed he with ⟨s, hs, hp⟩ | ⟨hl | ⟨f, hp⟩, -⟩
  · cases hp with
    | figure m => exact h m hs
  · cases hl
  · cases hp

/-- Directly or deeper in a legacy figure, there are no captions with attributes unless another
figure starts in it. -/
theorem Document.no_attributedCaption {es : List Event} (hd : Document (some (.figure none)) es)
    (h : ∀ m, .figure m ∉ es) (m : Mapping) : .figureCaption (some m) ∉ es := by
  intro he
  rcases hd.placed he with ⟨s, -, hp⟩ | ⟨-, q, hq, hfit⟩
  · cases hp
  · have hin : ∃ m', q = some (.figure m') := by
      cases q with
      | none => cases hfit
      | some g => cases g <;> simp_all [fits, inside, Event.starts?]
    obtain ⟨m', rfl⟩ := hin
    rcases hq with hq | ⟨s, hs, hq⟩
    · cases hq
      exact absurd hfit (by simp [fits])
    · cases hq
      exact h m' hs

section
variable (st : Style) {s : RenderState} (hs : s.figureMode = some .legacy)
include hs

/-- In a legacy figure an event writes an image tag just if it is graphics with attributes. -/
theorem Render.respond_image {e : Event} (hraw : ∀ t, e ≠ .rawText t) :
    (∃ p ∈ (respond st s e).pieces, st.IsTag "img" p) ↔
      ∃ source m, e = .figureGraphics source (some m) := by
  by_cases he : ∃ source m, e = .figureGraphics source m
  · obtain ⟨source, m, rfl⟩ := he
    have hfigure : s.inFigure = false := by simp [RenderState.inFigure, hs]
    cases m with
    | none =>
      have hplain : ¬st.IsTag "img" (" src=\"" ++ Text.escape source ++ "\"") :=
        Style.not_isTag_plain (by simp)
      simp [respond, figureGraphics, hs, Reaction.write, hplain]
    | some m =>
      simp [respond, figureGraphics, hfigure, Reaction.write, Style.isTag_single]
  · have hno : "img" ∉ e.tags := fun h => by
      rcases Event.mem_tags h (Or.inr rfl) with ⟨hname, -⟩ | ⟨-, hgraphics⟩
      · exact absurd hname (by decide)
      · exact he hgraphics
    have havoid : Avoids st "img" (respond st s e).pieces :=
      respond_avoids st s (by decide) hraw hno
    constructor
    · rintro ⟨p, hp, htag⟩
      exact absurd htag (havoid p hp)
    · rintro ⟨source, m, rfl⟩
      exact absurd ⟨source, some m, rfl⟩ he

theorem Render.transition_legacy {e : Event} (hstart : ∀ m, e ≠ .figure m) (hend : e ≠ .figureEnd) :
    (transition st s e).figureMode = some .legacy := by
  rw [transition_eq]
  cases e with
  | figure m => exact absurd rfl (hstart m)
  | figureEnd => exact absurd rfl hend
  | _ => exact hs

/-- What stands in a legacy figure writes an image tag just if graphics with attributes are there,
and the figure is a legacy figure afterwards. -/
theorem Render.output_legacy {es : List Event} (hstart : ∀ m, .figure m ∉ es)
    (hend : .figureEnd ∉ es) (hraw : ∀ t, .rawText t ∉ es) :
    ((∃ p ∈ output st s es, st.IsTag "img" p) ↔
        ∃ source m, .figureGraphics source (some m) ∈ es) ∧
      (transitions st s es).figureMode = some .legacy := by
  induction es generalizing s with
  | nil => exact ⟨by simp [output], hs⟩
  | cons e es ih =>
    simp only [List.mem_cons, not_or] at hstart hend hraw
    have hfirst := respond_image st hs fun t => Ne.symm (hraw t).1
    have hnext := transition_legacy st hs (fun m => Ne.symm (hstart m).1) (Ne.symm hend.1)
    obtain ⟨hrest, hlast⟩ := ih hnext (fun m => (hstart m).2) hend.2 fun t => (hraw t).2
    refine ⟨?_, hlast⟩
    simp only [output, List.mem_append, or_and_right, exists_or, hfirst, hrest, List.mem_cons,
      eq_comm]

end

/-- A legacy figure in which no other figure starts writes the beginning of an image tag, what
stands in it, and the end of the tag. -/
theorem Render.output_figure (st : Style) (s : RenderState) {inner : List Event}
    (hstart : ∀ m, .figure m ∉ inner) (hend : .figureEnd ∉ inner) (hraw : ∀ t, .rawText t ∉ inner) :
    ∃ mid, output st s (.figure none :: inner ++ [.figureEnd]) =
        ("<" ++ Tag.qualified st.qualifier "img") :: mid ++ [" />"] ∧
      ((∃ p ∈ mid, st.IsTag "img" p) ↔ ∃ source m, .figureGraphics source (some m) ∈ inner) := by
  let s₁ := transition st s (.figure none)
  have hs₁ : s₁.figureMode = some .legacy := rfl
  obtain ⟨htags, hlast⟩ := output_legacy st hs₁ hstart hend hraw
  refine ⟨output st s₁ inner, ?_, htags⟩
  have hclose : output st (transitions st s₁ inner) [.figureEnd] = [" />"] := by
    simp [output, respond, figureEnd, Reaction.andThen, Reaction.write, hlast]
  have hopen : (respond st s (.figure none)).pieces =
      ["<" ++ Tag.qualified st.qualifier "img"] := rfl
  rw [List.cons_append, output, hopen, output_append, hclose]
  rfl

/-- **What gets into a legacy figure.** Let a guard accept events. Then no part with attributes has
a legacy figure as its innermost figure, unless graphics do that stand in another construct within
it. Over a buffer, a legacy figure in which no other figure starts writes the beginning of an image
tag, the pieces of what stands in it, and the end of the tag. These pieces hold an image tag just if
graphics with attributes are there; captions with attributes are not. -/
theorem legacyParts_bare_iff (k : Sink) (es : List Event)
    (hk : ∀ e ∈ es, k.vocabulary.knows e = true)
    (hacc : ∀ x ∈ steps Session.event (.start k 1) es, x.refused = false) :
    ((∀ pre e post, es = pre ++ e :: post → e.isAttributedPart = true →
        figureOf (enclosure pre) ≠ some .legacy) ↔
      ∀ pre source m post, es = pre ++ .figureGraphics source (some m) :: post →
        ∀ X R, enclosure pre = X ++ .figure none :: R → X ≠ [] → opened X .figure = true) ∧
    ∀ (o : Options) (pre inner post : List Event),
      es = pre ++ (.figure none :: inner ++ [.figureEnd]) ++ post →
      Document (some (.figure none)) inner → (∀ m, .figure m ∉ inner) →
      (∀ t, .rawText t ∉ inner) →
      ∃ t mid, ((Session.start (.inMemory o) 1).events pre).after.sink.value = .ok t ∧
        ((Session.start (.inMemory o) 1).events
            (pre ++ (.figure none :: inner ++ [.figureEnd]))).after.sink.value =
          .ok (t ++ String.join
            ((("<" ++ Tag.qualified o.style.qualifier "img") :: mid ++ [" />"]).map
              (Text.normalize o.style.lineEnding))) ∧
        ((∃ p ∈ mid, o.style.IsTag "img" p) ↔
          ∃ source m, .figureGraphics source (some m) ∈ inner) ∧
        ∀ m, .figureCaption (some m) ∉ inner := by
  obtain ⟨T, g, hp, -, -⟩ := path_of_run .nil hk hacc
  refine ⟨hp.bare_iff, fun o pre inner post hes hd hstart hraw => ?_⟩
  subst hes
  have hok := Session.events_append_ok (hp.events_ok o)
  obtain ⟨t, hbefore, hafter⟩ := accepted_append hok
  obtain ⟨mid, hout, htags⟩ := output_figure o.style
    (transitions o.style .initial pre) hstart (hd.no_figureEnd hstart) hraw
  rw [hout] at hafter
  exact ⟨t, mid, hbefore, hafter, htags, hd.no_attributedCaption hstart⟩

def buriedGraphics : List Event :=
  [.figure none, .elementStart .paragraph ∅,
    .figureGraphics "a.png" (some (.ofList [("alt", .text "x")])), .elementEnd .paragraph,
    .figureEnd]

theorem buriedGraphics_mixed :
    ¬(∀ pre e post, buriedGraphics = pre ++ e :: post → e.isAttributedPart = true →
        figureOf (enclosure pre) ≠ some .legacy) := by
  obtain ⟨hrule, -⟩ :=
    legacyParts_bare_iff (.inMemory .usual) buriedGraphics (fun _ _ => rfl) (by decide)
  intro h
  have hopen := hrule.mp h [.figure none, .elementStart .paragraph ∅] "a.png"
    (.ofList [("alt", .text "x")]) [.elementEnd .paragraph, .figureEnd] rfl
    [.elementStart .paragraph ∅] [] rfl (by simp)
  cases hopen

/-- The guard accepts the graphics though the figure is a legacy figure, and the sink writes a whole
image tag in the tag of the figure. -/
theorem paragraphInFigure_leaks :
    let es : List Event := [.figure none, .elementStart .paragraph ∅]
    let e : Event := .figureGraphics "a.png" (some (.ofList [("alt", .text "x")]))
    figureOf (enclosure es) = some .legacy ∧ e.isAttributedPart = true ∧
      ((Session.start (.inMemory .usual) 1).events (es ++ [e])).result = .ok () ∧
      ((Session.start (.inMemory .usual) 1).events (es ++ [e])).after.sink.value =
        .ok "<img<p><img src=\"a.png\" alt=\"x\" />" := by
  exact ⟨rfl, rfl, rfl, by decide⟩

end EventMarkup
