import EventMarkup.Proofs.Steps

/-!
# What events do to the state

`Render.transition` is the state that an event leaves behind when all of it is written. It is
`Render.respond` without the writing: the events that no line mentions leave the state alone.
-/
namespace EventMarkup

namespace Render

/-- How a caption is written: as its figure asks, if it has no attributes of its own. -/
def captionConvention (s : RenderState) (m : Option Mapping) : Convention :=
  if m.isNone ∧ s.figureMode = some .legacy then .legacy else .current

/-- The state after an event that was written. -/
def transition (st : Style) (s : RenderState) : Event → RenderState
  | .text t _ => if s.headMode then collect s t else s
  | .lineBreak _ => if s.headMode then collect s st.lineEnding.text else s
  | .nonBreakingSpace => if s.headMode then collect s " " else s
  | .head => { s.resetBuffer with headMode := true }
  | .headEnd => { s with headMode := false }
  | .verbatim .. => if s.headMode then s else { s with verbatimMode := true }
  | .verbatimEnd => if s.headMode then s else { s with verbatimMode := false }
  | .table m => { s with pendingTable := some (st.admitted .table m) }
  | .tableRows j _ => { s.setJustification j with pendingTable := none }
  | .tableRowsEnd => { s.clearJustification with rowIsEven := true }
  | .tableRow _ => { s with rowIsEven := !s.rowIsEven, cellIndex := 0 }
  | .tableRowEnd => { s with cellIndex := 0 }
  | .cellEnd _ => if s.hasJustification then { s with cellIndex := s.cellIndex + 1 } else s
  | .figure m => { s with figureMode := some (conventionOf m) }
  | .figureEnd => { s with figureMode := none }
  | .figureCaption m => { s with captionMode := some (captionConvention s m) }
  | .figureCaptionEnd => { s with captionMode := none }
  | _ => s

/-- What an event adds to the text of a head. -/
def headText? (st : Style) : Event → Option String
  | .text t _ => some t
  | .lineBreak _ => some st.lineEnding.text
  | .nonBreakingSpace => some " "
  | _ => none

theorem outsideHead_late (s : RenderState) (r : Reaction) (h : r.late = s) :
    (Reaction.outsideHead s r).late = s := by
  unfold Reaction.outsideHead
  split
  · rfl
  · exact h

theorem outsideHead_early (s : RenderState) (r : Reaction) (h : r.early = s) :
    (Reaction.outsideHead s r).early = s := by
  unfold Reaction.outsideHead
  split
  · rfl
  · exact h

theorem outsideHead_of_flow {s : RenderState} (h : s.headMode = false) (r : Reaction) :
    Reaction.outsideHead s r = r :=
  if_neg (by rw [h]; exact Bool.false_ne_true)

theorem respond_late (st : Style) (s : RenderState) (e : Event) :
    (respond st s e).late = transition st s e := by
  cases e with
  | text t m => simp only [respond, text, transition]; split <;> rfl
  | lineBreak m => simp only [respond, lineBreak, transition]; split <;> rfl
  | nonBreakingSpace => simp only [respond, nonBreakingSpace, transition]; split <;> rfl
  | sectionStart n m =>
    refine outsideHead_late s _ ?_
    unfold sectionStart; split <;> rfl
  | sectionEnd n =>
    refine outsideHead_late s _ ?_
    unfold sectionEnd; split <;> rfl
  | titleStart n m =>
    refine outsideHead_late s _ ?_
    unfold titleStart; split <;> rfl
  | titleEnd n =>
    refine outsideHead_late s _ ?_
    unfold titleEnd; split <;> rfl
  | verbatim m b => simp only [respond, Reaction.outsideHead, transition]; split <;> rfl
  | verbatimEnd => simp only [respond, Reaction.outsideHead, transition]; split <;> rfl
  | figure m => cases m <;> rfl
  | figureGraphics source m => simp only [respond, figureGraphics, transition]; split <;> rfl
  | figureCaption m =>
    simp only [respond, figureCaption, transition, captionConvention]
    split <;> rfl
  | _ => first | rfl | exact outsideHead_late s _ rfl

/-- Before an event is written the state is as it was, or already as it will be. -/
theorem respond_early (st : Style) (s : RenderState) (e : Event) :
    (respond st s e).early = s ∨ (respond st s e).early = transition st s e := by
  cases e with
  | head | headEnd | table | tableRows | tableRowsEnd => exact Or.inr rfl
  | text | lineBreak | nonBreakingSpace =>
    simp only [respond, text, lineBreak, nonBreakingSpace, transition]
    split
    · exact Or.inr rfl
    · exact Or.inl rfl
  | sectionStart level m | sectionEnd level | titleStart level m | titleEnd level =>
    refine Or.inl (outsideHead_early s _ ?_)
    simp only [sectionStart, sectionEnd, titleStart, titleEnd]
    split <;> rfl
  | verbatim m boxed =>
    simp only [respond, Reaction.outsideHead, transition]
    split
    · exact Or.inl rfl
    · exact Or.inr rfl
  | figure m => cases m <;> exact Or.inr rfl
  | figureGraphics source m =>
    simp only [respond, figureGraphics]
    split <;> exact Or.inl rfl
  | figureCaption m =>
    simp only [respond, figureCaption, transition, captionConvention]
    split <;> exact Or.inr rfl
  | _ => exact Or.inl (by first | rfl | exact outsideHead_early s _ rfl)

/-! ## Field by field -/

/-- The state after an event, told field by field. -/
theorem transition_eq (st : Style) (s : RenderState) (e : Event) : transition st s e =
    { headMode := match e with
        | .head => true
        | .headEnd => false
        | _ => s.headMode
      verbatimMode := match e with
        | .verbatim .. => if s.headMode then s.verbatimMode else true
        | .verbatimEnd => if s.headMode then s.verbatimMode else false
        | _ => s.verbatimMode
      justification := match e with
        | .tableRows j _ => j.map fun entries => { entries }
        | .tableRowsEnd => none
        | _ => s.justification
      hasJustification := match e with
        | .tableRows .. => true
        | .tableRowsEnd => false
        | _ => s.hasJustification
      cellIndex := match e with
        | .tableRow _ | .tableRowEnd => 0
        | .cellEnd _ => if s.hasJustification then s.cellIndex + 1 else s.cellIndex
        | _ => s.cellIndex
      rowIsEven := match e with
        | .tableRow _ => !s.rowIsEven
        | .tableRowsEnd => true
        | _ => s.rowIsEven
      pendingTable := match e with
        | .table m => some (st.admitted .table m)
        | .tableRows .. => none
        | _ => s.pendingTable
      figureMode := match e with
        | .figure m => some (conventionOf m)
        | .figureEnd => none
        | _ => s.figureMode
      captionMode := match e with
        | .figureCaption m => some (captionConvention s m)
        | .figureCaptionEnd => none
        | _ => s.captionMode
      headBuffer := match e with
        | .head => []
        | _ => if s.headMode then s.headBuffer ++ (headText? st e).toList else s.headBuffer } := by
  obtain ⟨head, verbatim, columns, declared, index, even, pending, figure, caption, buffer⟩ := s
  cases e with
  | text | lineBreak | nonBreakingSpace | verbatim | verbatimEnd =>
    cases head <;> simp [transition, headText?, collect]
  | cellEnd => cases declared <;> simp [transition, headText?]
  | _ =>
    simp [transition, headText?, RenderState.resetBuffer, RenderState.setJustification,
      RenderState.clearJustification]

theorem cellIndex_nonneg {st : Style} {s : RenderState} (h : 0 ≤ s.cellIndex) (e : Event) :
    0 ≤ (transition st s e).cellIndex := by
  simp only [transition_eq]
  cases e with
  | cellEnd k =>
    simp only
    split <;> omega
  | tableRow | tableRowEnd => exact Int.le_refl 0
  | _ => exact h

end Render

namespace Sink

theorem perform_ok {k : Sink} {r : Reaction} (h : (k.perform r).result = .ok ()) :
    (k.perform r).after.state = r.late := by
  simp only [perform] at h ⊢
  split at h
  · rfl
  · cases h

theorem event_state {k : Sink} {e : Event} (h : (k.event e).result = .ok ()) :
    (k.event e).after.state = Render.transition k.style k.state e := by
  unfold event at h ⊢
  split
  · rename_i hk
    rw [if_pos hk] at h
    split at h
    · cases h
    · rw [perform_ok h, Render.respond_late]
  · rename_i hk
    rw [if_neg hk] at h
    cases h

/-- An event that fails leaves the state alone or changes it as if it had been written. -/
theorem event_state_cases (k : Sink) (e : Event) :
    (k.event e).after.state = k.state ∨
      (k.event e).after.state = Render.transition k.style k.state e := by
  unfold event
  split
  · split
    · exact Or.inl rfl
    · simp only [perform]
      split
      · exact Or.inr (Render.respond_late k.style k.state e)
      · exact Render.respond_early k.style k.state e
  · exact Or.inl rfl

theorem perform_style (k : Sink) (r : Reaction) : (k.perform r).after.style = k.style := by
  simp only [perform]
  split <;> rfl

theorem event_style (k : Sink) (e : Event) : (k.event e).after.style = k.style := by
  unfold event
  split
  · split
    · rfl
    · exact perform_style k _
  · rfl

end Sink

end EventMarkup
