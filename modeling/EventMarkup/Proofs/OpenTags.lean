import EventMarkup.Proofs.AttributeNames
import EventMarkup.Proofs.Buffer
import EventMarkup.Proofs.Enclosure

/-!
# The tags that events open and close

What a reader of text between tags makes of the pieces that an event writes (`Takes`), as long as no
legacy figure is open: a leaf leaves the open tags alone, a start opens the tags of its construct,
the end closes them. A table is the exception: its tag is opened by its rows.
-/
namespace EventMarkup

open Render

/-- The name of a tag as a reader sees it. -/
def Style.tagName (st : Style) (n : String) : List Char := (Tag.qualified st.qualifier n).toList

/-- The tags of a construct that is not written in a head, innermost first. -/
def flowTags : Event → List String
  | .sectionStart level _ => if inRange level then ["div"] else []
  | .titleStart level _ => if inRange level then [heading level] else []
  | .elementStart x _ => [x.tag]
  | .numberedList .. => ["ol"]
  | .verbatim .. => ["pre", "div"]
  | .link .. | .anchor .. => ["a"]
  | _ => []

/-- The tags that are open from a start event to its end, innermost first. -/
def ownTags (inHead : Bool) : Event → List String
  | .tableRow _ => ["tr"]
  | .cell k .. => [cellTag k]
  | .tableCaption _ => ["caption"]
  | .figure (some _) => ["div"]
  | .figureCaption _ => ["i", "p"]
  | e => if inHead then [] else flowTags e

/-- Pieces take a reader of text from one list of open tags to another. -/
def Takes (ts : List String) (os os' : List (List Char)) : Prop :=
  (Reader.mk .data os).readAll ts = some ⟨.data, os'⟩

variable {ts us : List String} {os os' os'' : List (List Char)}

theorem Takes.nil : Takes [] os os := rfl

theorem Takes.append (h : Takes ts os os') (h' : Takes us os' os'') : Takes (ts ++ us) os os'' := by
  rw [Takes, Reader.readAll_append, h]
  exact h'

theorem Takes.of_read {t : String} (h : (Reader.mk .data os).read t.toList = some ⟨.data, os'⟩) :
    Takes [t] os os' := by
  rw [Takes, Reader.readAll_cons, h]
  rfl

theorem Takes.text {t : String} (h : isBare t = true) : Takes [t] os os :=
  .of_read (Reader.read_data h)

/-- In a head nothing is written, and no tags are open, for the constructs of running text. -/
theorem Takes.outsideHead {s : RenderState} {r : Reaction} (tags tags' : List (List Char))
    (h : Takes r.pieces (tags ++ os) (tags' ++ os)) :
    Takes (Reaction.outsideHead s r).pieces
      ((if s.headMode then [] else tags) ++ os) ((if s.headMode then [] else tags') ++ os) := by
  unfold Reaction.outsideHead
  cases s.headMode with
  | true => exact .nil
  | false => exact h

section
variable {st : Style} {s : RenderState} {r : Reaction} {e : Event}
  (he : ownTags s.headMode e = if s.headMode then [] else flowTags e)
include he

theorem Takes.flowStart (h : Takes r.pieces os ((flowTags e).map st.tagName ++ os)) :
    Takes (Reaction.outsideHead s r).pieces os ((ownTags s.headMode e).map st.tagName ++ os) := by
  rw [he, apply_ite (List.map st.tagName)]
  simpa using Takes.outsideHead (s := s) [] _ h

theorem Takes.flowFinish (h : Takes r.pieces ((flowTags e).map st.tagName ++ os) os) :
    Takes (Reaction.outsideHead s r).pieces ((ownTags s.headMode e).map st.tagName ++ os) os := by
  rw [he, apply_ite (List.map st.tagName)]
  simpa using Takes.outsideHead (s := s) _ [] h

end

section
variable {st : Style} {n : String} {a : Attributes} (hn : isName (st.tagName n) = true)
include hn

theorem Takes.start (ha : a.Bare) : Takes [st.startTag n a] os (st.tagName n :: os) :=
  .of_read (Reader.read_start hn ha)

theorem Takes.single (ha : a.Bare) : Takes [st.singleTag n a] os os :=
  .of_read (Reader.read_single hn ha)

theorem Takes.finish : Takes [st.endTag n] (st.tagName n :: os) os :=
  .of_read (Reader.read_finish hn)

end

namespace Options.Readable

variable {o : Options} (ho : o.Readable) {s : RenderState}
include ho

theorem name {n : String} (hn : isName n.toList = true) : isName (o.style.tagName n) = true :=
  isName_qualified ho.qualifier hn

/-! ## Leaves -/

theorem takes_tagged {tags : List String} (h : ∀ n ∈ tags, isName n.toList = true) (t : String) :
    Takes (tagged o.style tags t) os os := by
  induction tags generalizing os with
  | nil => exact .text (escape_bare t)
  | cons n tags ih =>
    rw [List.forall_mem_cons] at h
    have hs : tagged o.style (n :: tags) t =
        [o.style.startTag n ∅] ++ tagged o.style tags t ++ [o.style.endTag n] := by
      simp [tagged]
    rw [hs]
    have hstart : Takes [o.style.startTag n ∅] os (o.style.tagName n :: os) :=
      .start (ho.name h.1) Attributes.Named.empty
    exact (hstart.append (ih h.2)).append (.finish (ho.name h.1))

omit ho in
theorem isName_of_mem_textTags {m : Mapping} : ∀ n ∈ textTags s m, isName n.toList = true := by
  unfold textTags decorations
  repeat' split
  all_goals decide

theorem takes_leaf {e : Event} (hl : Leaf e) (hraw : ∀ t, e ≠ .rawText t)
    (hf : s.figureMode ≠ some .legacy) : Takes (respond o.style s e).pieces os os := by
  cases hl with
  | text t m =>
    simp only [respond, Render.text]
    split
    · exact .nil
    · exact ho.takes_tagged isName_of_mem_textTags t
  | lineBreak m =>
    simp only [respond, lineBreak]
    split
    · exact .nil
    · exact .single (ho.name (by decide)) (ho.names.admitted m _)
  | nonBreakingSpace =>
    simp only [respond, nonBreakingSpace]
    split
    · exact .nil
    · exact .text (by decide)
  | horizontalRule m =>
    simp only [respond, Reaction.outsideHead]
    split
    · exact .nil
    · exact .single (ho.name (by decide)) (ho.names.admitted m _)
  | comment t => exact .of_read (Reader.read_comment t)
  | pageBreak => exact .of_read (Reader.read_comment "PB")
  | rawText t => exact absurd rfl (hraw t)
  | figureGraphics source m =>
    have hi os : Takes [o.style.singleTag "img" (Render.imageAttributes o.style source m)] os os :=
      .single (ho.name (by decide)) (ho.names.imageAttributes source m)
    have hp : isName (o.style.tagName "p") = true := ho.name (by decide)
    simp only [respond, figureGraphics, hf, and_false, if_false, Reaction.write]
    split
    · exact ((Takes.start hp ho.names.centred).append (hi _)).append (.finish hp)
    · exact hi os

/-! ## Starts -/

omit ho in
theorem isName_heading {level : Int} (h : inRange level = true) :
    isName (heading level).toList = true := by
  simp only [inRange, Bool.and_eq_true, decide_eq_true_eq] at h
  obtain ⟨hlow, hhigh⟩ := h
  obtain rfl | rfl | rfl | rfl | rfl :
    level = 1 ∨ level = 2 ∨ level = 3 ∨ level = 4 ∨ level = 5 := by omega
  all_goals decide

omit ho in
theorem isName_tag (x : Element) : isName x.tag.toList = true := by
  cases x <;> decide

omit ho in
theorem isName_cellTag (k : CellKind) : isName (cellTag k).toList = true := by
  cases k <;> decide

theorem takes_start {e f : Event} (hp : Pair e f) (hfig : e ≠ .figure none)
    (hrows : ∀ j grid, e ≠ .tableRows j grid) (hf : s.figureMode ≠ some .legacy) :
    Takes (respond o.style s e).pieces os
      ((ownTags s.headMode e).map o.style.tagName ++ os) := by
  cases hp with
  | head => cases hh : s.headMode <;> exact .nil
  | sectioning level m =>
    refine .flowStart rfl ?_
    cases hl : inRange level with
    | true =>
      simp only [sectionStart, flowTags, hl, if_true]
      exact .start (ho.name (by decide)) (ho.names.sectionAttributes m)
    | false =>
      simp only [sectionStart, flowTags, hl]
      exact .nil
  | title level m =>
    refine .flowStart rfl ?_
    cases hl : inRange level with
    | true =>
      simp only [titleStart, flowTags, hl, if_true]
      exact .start (ho.name (isName_heading hl)) (ho.names.admitted m _)
    | false =>
      simp only [titleStart, flowTags, hl]
      exact .nil
  | element x m =>
    exact .flowStart rfl (.start (ho.name (isName_tag x)) (ho.names.admitted m _))
  | numberedList w m =>
    exact .flowStart rfl (.start (ho.name (by decide)) (ho.names.numberedListAttributes m w))
  | verbatim m boxed =>
    refine .flowStart rfl ?_
    have hc : (Render.verbatimContainer o.style _).Bare :=
      ho.names.verbatimContainer (ho.names.verbatimRequest m boxed)
    exact (Takes.start (ho.name (by decide)) hc).append
      (.start (ho.name (by decide)) (ho.names.verbatimContent hc))
  | table m => cases hh : s.headMode <;> exact .nil
  | tableRows j grid => exact absurd rfl (hrows j grid)
  | tableRow m => exact .start (ho.name (by decide)) (ho.names.rowAttributes s m)
  | cell k m w => exact .start (ho.name (isName_cellTag k)) (ho.names.cellAttributes s m w)
  | tableCaption m => exact .start (ho.name (by decide)) (ho.names.admitted m _)
  | figure m =>
    cases m with
    | none => exact absurd rfl hfig
    | some m => exact .start (ho.name (by decide)) (ho.names.figureAttributes m)
  | figureCaption m =>
    simp only [respond, figureCaption, hf, and_false, if_false, Reaction.write]
    exact (Takes.start (ho.name (by decide)) (ho.names.captionAttributes m)).append
      (.start (ho.name (by decide)) Attributes.Named.empty)
  | link href m target =>
    exact .flowStart rfl (.start (ho.name (by decide)) (ho.names.linkAttributes m href target))
  | anchor name m =>
    exact .flowStart rfl (.start (ho.name (by decide)) (ho.names.anchorAttributes m name))

theorem takes_rows (hpend : ∀ a ∈ s.pendingTable, a.Bare) (j : Option (List (Option String)))
    (grid : Bool) :
    Takes (respond o.style s (.tableRows j grid)).pieces os (o.style.tagName "table" :: os) :=
  .start (ho.name (by decide)) (ho.names.awaitedAttributes hpend grid)

/-! ## Ends -/

theorem takes_finish {e f : Event} (hp : Pair e f) (hfig : e ≠ .figure none)
    (htable : ∀ m, e ≠ .table m) (hf : s.figureMode ≠ some .legacy)
    (hc : s.captionMode ≠ some .legacy) :
    Takes (respond o.style s f).pieces ((ownTags s.headMode e).map o.style.tagName ++ os) os := by
  cases hp with
  | head => cases hh : s.headMode <;> exact .nil
  | sectioning level m =>
    refine .flowFinish rfl ?_
    cases hl : inRange level with
    | true =>
      simp only [sectionEnd, flowTags, hl, if_true]
      exact .finish (ho.name (by decide))
    | false =>
      simp only [sectionEnd, flowTags, hl]
      exact .nil
  | title level m =>
    refine .flowFinish rfl ?_
    cases hl : inRange level with
    | true =>
      simp only [titleEnd, flowTags, hl, if_true]
      exact .finish (ho.name (isName_heading hl))
    | false =>
      simp only [titleEnd, flowTags, hl]
      exact .nil
  | element x m =>
    exact .flowFinish rfl (.finish (ho.name (isName_tag x)))
  | verbatim m boxed =>
    have hpre : isName (o.style.tagName "pre") = true := ho.name (by decide)
    exact .flowFinish rfl ((Takes.finish hpre).append (.finish (ho.name (by decide))))
  | numberedList | link | anchor =>
    exact .flowFinish rfl (.finish (ho.name (by decide)))
  | table m => exact absurd rfl (htable m)
  | tableRows j grid => cases hh : s.headMode <;> exact .nil
  | tableRow | tableCaption => exact .finish (ho.name (by decide))
  | cell k m w => exact .finish (ho.name (isName_cellTag k))
  | figure m =>
    cases m with
    | none => exact absurd rfl hfig
    | some m =>
      simp only [respond, figureEnd, hf, if_false, Reaction.write]
      exact .finish (ho.name (by decide))
  | figureCaption m =>
    simp only [respond, figureCaptionEnd, hc, if_false, Reaction.write]
    exact (Takes.finish (ho.name (by decide))).append (.finish (ho.name (by decide)))

theorem takes_tableEnd :
    Takes (respond o.style s .tableEnd).pieces (o.style.tagName "table" :: os) os :=
  .finish (ho.name (by decide))

end Options.Readable

end EventMarkup
