import EventMarkup.Proofs.Accepted
import EventMarkup.Proofs.Brackets
import EventMarkup.Proofs.LineEndings

/-!
# The ends of figures and captions

The start of a figure chooses a convention, and so does the start of a caption. The end is to follow
it, but a state remembers one convention for all figures that are open and one for all captions.
The end of a figure inside forgets that of the figure around it.

* `Render.figureMode_after`, `Render.captionMode_after`: what a state remembers at the end.
* `ends_follow_iff`: all ends follow the convention of their starts just if no figure starts inside
  a legacy figure and no caption inside the caption of one.
-/
namespace EventMarkup

open Render

namespace Render

/-! ## What is written -/

section
variable (st : Style)

/-- What the end of a figure writes by a convention. -/
def figureClosing : Convention → List String
  | .legacy => [" />"]
  | .current => [st.endTag "div"]

/-- What the start of a caption writes by a convention. -/
def captionOpening (m : Option Mapping) : Convention → List String
  | .legacy => [" alt=\""]
  | .current =>
    [st.startTag "p" (centred.merge (st.admitted .basic (m.getD ∅))), st.startTag "i" ∅]

def captionClosing : Convention → List String
  | .legacy => ["\""]
  | .current => [st.endTag "i", st.endTag "p"]

variable (s : RenderState)

theorem figureEnd_pieces :
    (respond st s .figureEnd).pieces = figureClosing st (s.figureMode.getD .current) := by
  simp only [respond, figureEnd]
  rcases s.figureMode with _ | _ | _ <;> rfl

theorem figureCaption_pieces (m : Option Mapping) :
    (respond st s (.figureCaption m)).pieces = captionOpening st m (captionConvention s m) := by
  simp only [respond, figureCaption, captionConvention]
  split <;> rfl

theorem figureCaptionEnd_pieces :
    (respond st s .figureCaptionEnd).pieces = captionClosing st (s.captionMode.getD .current) := by
  simp only [respond, figureCaptionEnd]
  rcases s.captionMode with _ | _ | _ <;> rfl

end

/-! ## What is remembered -/

section
variable (st : Style) (s : RenderState) {inner : List Event} (m : Option Mapping)

/-- At its end, the convention of a figure is remembered unless a figure started in it. -/
theorem figureMode_after (h : Bracketed .figure inner) :
    (transitions st s (.figure m :: inner)).figureMode =
      if opened inner .figure then none else some (conventionOf m) := by
  refine h.spans.field_eq (fun e he => he.1) (fun s e he => ?_) (fun s e he => ?_)
    (transition st s (.figure m))
  · rw [transition_eq]
    cases e with
    | figure => exact absurd rfl he.1
    | figureEnd => exact absurd rfl he.2
    | _ => rfl
  · cases e <;> first | rfl | cases he

theorem captionMode_after (h : Bracketed .figureCaption inner) :
    (transitions st s (.figureCaption m :: inner)).captionMode =
      if opened inner .figureCaption then none else some (captionConvention s m) := by
  refine h.spans.field_eq (fun e he => he.1) (fun s e he => ?_) (fun s e he => ?_)
    (transition st s (.figureCaption m))
  · rw [transition_eq]
    cases e with
    | figureCaption => exact absurd rfl he.1
    | figureCaptionEnd => exact absurd rfl he.2
    | _ => rfl
  · cases e <;> first | rfl | cases he

end

end Render

/-- An event that writes a word which does not begin like a tag writes no end tag. -/
theorem Sink.Writes.no_endTag {k : Sink} {e : Event} {w : String} (h : k.Writes e [w])
    (hline : Text.isOneLine w.toList = true) (hw : w.toList.head? ≠ some '<')
    (hb : k.destination.OpenBuffer) (st : Style) (n : String) (ps : List String) :
    ¬k.Writes e (st.endTag n :: ps) := by
  intro hend
  have htag : Text.normalize k.style.lineEnding (st.endTag n) =
      "</" ++ Text.normalize k.style.lineEnding (Tag.qualified st.qualifier n ++ ">") := by
    rw [Style.endTag, Tag.finish, String.append_assoc]
    exact Text.normalize_oneLine_append _ rfl _
  have hhead := congrArg (fun t : String => t.toList.head?) (h.join_eq hend hb)
  simp [Text.normalize_oneLine _ hline, htag, String.join_cons] at hhead
  exact hw hhead

/-- An end that forgets its convention if a construct was nested follows it just if that makes no
difference. -/
theorem Sink.Writes.follows_iff {k : Sink} {e : Event} {closing : Convention → List String}
    {nested : Bool} {c : Convention}
    (h : k.Writes e (closing (if nested then .current else c)))
    (hdiffer : k.Writes e (closing .legacy) → ¬k.Writes e (closing .current)) :
    k.Writes e (closing c) ↔ (c = .legacy → nested = false) := by
  cases nested with
  | false => exact iff_of_true h fun _ => rfl
  | true =>
    cases c with
    | legacy => exact iff_of_false (fun hlegacy => hdiffer hlegacy h) (by simp)
    | current => exact iff_of_true h (by simp)

/-! ## Runs -/

/-- Each end of a figure among events follows the convention that its start chose. -/
def FigureEndsFollow (k : Sink) (es : List Event) : Prop :=
  ∀ pre m inner, Closes es pre (.figure m) inner .figureEnd →
    (final Sink.event k (pre ++ .figure m :: inner)).Writes .figureEnd
      (figureClosing k.style (conventionOf m))

def CaptionEndsFollow (k : Sink) (es : List Event) : Prop :=
  ∀ pre m inner, Closes es pre (.figureCaption m) inner .figureCaptionEnd →
    (final Sink.event k (pre ++ .figureCaption m :: inner)).Writes .figureCaptionEnd
      (captionClosing k.style (captionConvention (transitions k.style k.state pre) m))

section
variable {k : Sink} (hv : k.vocabulary = .everything) {es pre inner : List Event}
  {m : Option Mapping} (hok : ∀ x ∈ steps Sink.event k es, x.outcome.result = .ok ())
include hv hok

/-- A figure in which another one starts ends like a current one. -/
theorem Closes.figureEnd_writes (h : Closes es pre (.figure m) inner .figureEnd) :
    (final Sink.event k (pre ++ .figure m :: inner)).Writes .figureEnd
      (figureClosing k.style (if opened inner .figure then .current else conventionOf m)) := by
  obtain ⟨⟨post, rfl⟩, c, hc, -, hb⟩ := h
  cases hc
  have hmode : (transitions k.style k.state (pre ++ .figure m :: inner)).figureMode.getD .current =
      if opened inner .figure then .current else conventionOf m := by
    rw [transitions_append, figureMode_after k.style _ m hb]
    split <;> rfl
  have hwrites := Sink.writes_within hv hok
  rwa [figureEnd_pieces, hmode] at hwrites

/-- A caption starts by the convention that it chose, and ends by it unless another caption starts
in it. -/
theorem Closes.caption_writes (h : Closes es pre (.figureCaption m) inner .figureCaptionEnd) :
    let c := captionConvention (transitions k.style k.state pre) m
    (final Sink.event k pre).Writes (.figureCaption m) (captionOpening k.style m c) ∧
      (final Sink.event k (pre ++ .figureCaption m :: inner)).Writes .figureCaptionEnd
        (captionClosing k.style (if opened inner .figureCaption then .current else c)) := by
  intro c
  obtain ⟨⟨post, rfl⟩, _, hc, -, hb⟩ := h
  cases hc
  have hmode : (transitions k.style k.state
      (pre ++ .figureCaption m :: inner)).captionMode.getD .current =
        if opened inner .figureCaption then .current else c := by
    rw [transitions_append, captionMode_after k.style _ m hb]
    split <;> rfl
  have hend := Sink.writes_within hv hok
  rw [figureCaptionEnd_pieces, hmode] at hend
  rw [List.append_assoc] at hok
  have hstart := Sink.writes_within hv hok
  rw [figureCaption_pieces] at hstart
  exact ⟨hstart, hend⟩

end

section
variable {k : Sink} (hk : k.Ready) (hc : 0 ≤ k.state.cellIndex) (es : List Event)
include hk hc

theorem Sink.Ready.final_buffer : (final Sink.event k es).destination.OpenBuffer :=
  (hk.run (columnsFound_of_nonneg hc es)).2.1.buffer

/-- The ends of figures follow their starts just if no figure starts in a legacy figure. -/
theorem figureEndsFollow_iff : FigureEndsFollow k es ↔
    ∀ pre inner, Closes es pre (.figure none) inner .figureEnd →
      opened inner .figure = false := by
  obtain ⟨hok, -, -⟩ := hk.run (columnsFound_of_nonneg hc es)
  have heach {pre inner : List Event} {m : Option Mapping}
      (h : Closes es pre (.figure m) inner .figureEnd) :=
    (h.figureEnd_writes hk.vocabulary hok).follows_iff fun hlegacy =>
      hlegacy.no_endTag (by decide) (by decide) (hk.final_buffer hc _) k.style "div" []
  refine ⟨fun hlaw pre inner h => (heach h).mp (hlaw pre none inner h) rfl,
    fun hfree pre m inner h => (heach h).mpr fun hlegacy => ?_⟩
  cases m with
  | none => exact hfree pre inner h
  | some a => cases hlegacy

/-- The ends of captions follow their starts just if no caption starts in the caption of a legacy
figure. -/
theorem captionEndsFollow_iff : CaptionEndsFollow k es ↔
    ∀ pre m inner, Closes es pre (.figureCaption m) inner .figureCaptionEnd →
      captionConvention (transitions k.style k.state pre) m = .legacy →
        opened inner .figureCaption = false := by
  obtain ⟨hok, -, -⟩ := hk.run (columnsFound_of_nonneg hc es)
  have heach {pre inner : List Event} {m : Option Mapping}
      (h : Closes es pre (.figureCaption m) inner .figureCaptionEnd) :=
    (h.caption_writes hk.vocabulary hok).2.follows_iff fun hlegacy =>
      hlegacy.no_endTag (by decide) (by decide) (hk.final_buffer hc _) k.style "i" _
  exact ⟨fun hlaw pre m inner h => (heach h).mp (hlaw pre m inner h),
    fun hfree pre m inner h => (heach h).mpr (hfree pre m inner h)⟩

end

/-- **The ends of figures and captions.** Send a fresh sink any events. Wherever they all go well, a
figure that is closed is closed by the convention that its start chose, or like a current one if
another figure starts in it; and a caption is opened by the convention that it chooses, and closed
by it, or like a current one if another caption starts in it. On an open buffer all goes well, so
there all ends follow their starts just if nothing of their kind starts in a legacy figure or in a
caption that opened an alternative text. -/
theorem ends_follow_iff (o : Options) (d : Destination) (es : List Event) :
    let k := Sink.fresh o d
    let sink es := final Sink.event k es
    let convention pre m := captionConvention (transitions k.style k.state pre) m
    ((∀ x ∈ steps Sink.event k es, x.outcome.result = .ok ()) →
      (∀ pre m inner, Closes es pre (.figure m) inner .figureEnd →
        (sink (pre ++ .figure m :: inner)).Writes .figureEnd
          (figureClosing k.style (if opened inner .figure then .current else conventionOf m))) ∧
      ∀ pre m inner, Closes es pre (.figureCaption m) inner .figureCaptionEnd →
        (sink pre).Writes (.figureCaption m) (captionOpening k.style m (convention pre m)) ∧
        (sink (pre ++ .figureCaption m :: inner)).Writes .figureCaptionEnd (captionClosing k.style
          (if opened inner .figureCaption then .current else convention pre m))) ∧
    (d.OpenBuffer → (∀ x ∈ steps Sink.event k es, x.outcome.result = .ok ()) ∧
      (FigureEndsFollow k es ↔ ∀ pre inner, Closes es pre (.figure none) inner .figureEnd →
        opened inner .figure = false) ∧
      (CaptionEndsFollow k es ↔ ∀ pre m inner,
        Closes es pre (.figureCaption m) inner .figureCaptionEnd → convention pre m = .legacy →
          opened inner .figureCaption = false)) := by
  intro k sink convention
  refine ⟨fun hok => ⟨fun pre m inner h => h.figureEnd_writes rfl hok,
    fun pre m inner h => h.caption_writes rfl hok⟩, fun hb => ?_⟩
  have hk : k.Ready := ⟨rfl, hb⟩
  have hcells : 0 ≤ k.state.cellIndex := Int.le_refl 0
  exact ⟨(hk.run (columnsFound_of_nonneg hcells es)).1, figureEndsFollow_iff hk hcells es,
    captionEndsFollow_iff hk hcells es⟩

def innerLegacy : List Event := [.figure (some ∅), .figure none, .figureEnd, .figureEnd]

def innerCurrent : List Event := [.figure none, .figure (some ∅), .figureEnd, .figureEnd]

theorem innerLegacy_follows_innerCurrent_not :
    FigureEndsFollow (.inMemory .usual) innerLegacy ∧
      ¬FigureEndsFollow (.inMemory .usual) innerCurrent := by
  have hb := (Sink.inMemory_ready .usual).buffer
  refine ⟨?_, fun hfollow => ?_⟩
  · obtain ⟨-, -, hiff, -⟩ := (ends_follow_iff .usual _ innerLegacy).imp_right (· hb)
    refine hiff.mpr fun pre inner h => ?_
    obtain ⟨⟨post, heq⟩, -⟩ := h
    obtain ⟨-, ⟨rfl, -⟩ | ⟨rfl, -⟩⟩ : pre = [.figure (some ∅)] ∧
        (inner = [] ∧ post = [.figureEnd] ∨ inner = [.figureEnd] ∧ post = []) := by
      simpa [innerLegacy, List.cons_eq_append_iff, List.append_eq_cons_iff] using heq
    · rfl
    · rfl
  · obtain ⟨-, -, hiff, -⟩ := (ends_follow_iff .usual _ innerCurrent).imp_right (· hb)
    have hinner : Document (some (.figure none)) [.figure (some ∅), .figureEnd] :=
      .construct (.figure (some ∅)) rfl .nil .nil
    have hclosed : Closes ([] ++ .figure none :: [.figure (some ∅), .figureEnd] ++ [.figureEnd]) []
        (.figure none) [.figure (some ∅), .figureEnd] .figureEnd := hinner.closes (.figure none)
    cases hiff.mp hfollow [] _ hclosed

/-- The end of the outer figure is that of a container, in the middle of an image tag. Likewise the
end of a caption in which another figure has one. -/
theorem innerCurrent_unfollowed :
    let run es := (Session.start (.inMemory .usual) 1).events es
    let captions : List Event := [.figure none, .figureCaption none, .figure none,
      .figureCaption none, .figureCaptionEnd, .figureEnd]
    (run innerCurrent).result = .ok () ∧
      (run innerCurrent.dropLast).after.sink.value = .ok "<img<div class=\"figure\"></div>" ∧
      (run innerCurrent).after.sink.value = .ok "<img<div class=\"figure\"></div></div>" ∧
      (run (captions ++ [.figureCaptionEnd])).result = .ok () ∧
      (run captions).after.sink.value = .ok "<img alt=\"<img alt=\"\" />" ∧
      (run (captions ++ [.figureCaptionEnd])).after.sink.value =
        .ok "<img alt=\"<img alt=\"\" /></i></p>" := by
  refine ⟨rfl, by decide, by decide, rfl, by decide, by decide⟩

end EventMarkup
