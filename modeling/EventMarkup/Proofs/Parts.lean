import EventMarkup.Proofs.AttributeNames

/-!
# The parts of what an event writes

What an event writes consists of tags, of text that starts none, and of what the caller writes
himself. `Render.parts` tells these parts apart, each tag with its name and its attributes; the
qualifier of a style shows only when they are written (`Part.write`).

* `Render.respond_parts`: an event writes its parts.
* `Render.parts_fit`: they are tags of the event's own names, and text without an opening bracket.
* `Render.parts_named`: the names of their attributes are those that the options let through, and
  those that events bring themselves.

So a property of what is written needs one look at each kind of part, not at each event.
-/
namespace EventMarkup

open Render

/-- Whether a text holds no opening bracket. -/
def BracketFree (t : String) : Prop := '<' ∉ t.toList

instance : DecidablePred BracketFree := fun t => inferInstanceAs (Decidable ('<' ∉ t.toList))

theorem escape_free (t : String) : BracketFree (Text.escape t) := fun h =>
  absurd (List.all_eq_true.mp (escape_bare t) _ h) (by decide)

/-- The names of the tags that an event may write. -/
def Event.tags : Event → List String
  | text .. => ["u", "s", "sub", "sup"]
  | lineBreak _ => ["br"]
  | horizontalRule _ => ["hr"]
  | sectionStart .. | sectionEnd _ => ["div"]
  | titleStart level _ | titleEnd level => if inRange level then [heading level] else []
  | elementStart x _ | elementEnd x => [x.tag]
  | numberedList .. | numberedListEnd => ["ol"]
  | verbatim .. | verbatimEnd => ["div", "pre"]
  | tableRows .. | tableEnd => ["table"]
  | tableRow _ | tableRowEnd => ["tr"]
  | cell k .. | cellEnd k => [cellTag k]
  | tableCaption _ | tableCaptionEnd => ["caption"]
  | figure _ | figureEnd => ["div"]
  | figureGraphics .. => ["p", "img"]
  | figureCaption _ | figureCaptionEnd => ["p", "i"]
  | link .. | linkEnd | anchor .. | anchorEnd => ["a"]
  | _ => []

/-- Table tags belong to the rows and the end of a table, image tags to graphics. -/
theorem Event.mem_tags {e : Event} {n : String} (he : n ∈ e.tags) (hn : n = "table" ∨ n = "img") :
    n = "table" ∧ ((∃ j grid, e = .tableRows j grid) ∨ e = .tableEnd) ∨
      n = "img" ∧ ∃ source m, e = .figureGraphics source m := by
  cases e with
  | tableRows j grid => exact Or.inl ⟨List.mem_singleton.mp he, Or.inl ⟨j, grid, rfl⟩⟩
  | tableEnd => exact Or.inl ⟨List.mem_singleton.mp he, Or.inr rfl⟩
  | figureGraphics source m =>
    rcases hn with rfl | rfl
    · simp [tags] at he
    · exact Or.inr ⟨rfl, source, m, rfl⟩
  | titleStart level | titleEnd level =>
    simp only [tags] at he
    split at he
    · rcases hn with rfl | rfl <;> simp [heading, String.ext_iff] at he
    · cases he
  | elementStart x | elementEnd x =>
    cases x <;> rcases hn with rfl | rfl <;> simp [tags, Element.tag] at he
  | cell k | cellEnd k => cases k <;> rcases hn with rfl | rfl <;> simp [tags, cellTag] at he
  | _ => rcases hn with rfl | rfl <;> simp [tags] at he

/-- A part of what an event writes. -/
inductive Part where
  /-- Text in a tag or between tags. -/
  | text (t : String)
  | comment (t : String)
  | raw (t : String)
  /-- The start of an image tag that other events end. -/
  | imageStart
  | start (n : String) (a : Attributes)
  | single (n : String) (a : Attributes)
  | finish (n : String)

namespace Part

def write (qualifier : Option String) : Part → String
  | text t | raw t => t
  | comment t => commentText t
  | imageStart => "<" ++ Tag.qualified qualifier "img"
  | start n a => Tag.start qualifier n a
  | single n a => Tag.single qualifier n a
  | finish n => Tag.finish qualifier n

/-- Whether the part is one that an event may write: a tag with one of its names, text that starts
no tag, or what the event brings along. -/
def Fits (e : Event) : Part → Prop
  | text t => BracketFree t
  | comment t => e = .comment t ∨ e = .pageBreak
  | raw t => e = .rawText t
  | imageStart => e = .figure none
  | start n _ | single n _ | finish n => n ∈ e.tags

/-- Whether the names of the part's attributes have a property. -/
def Named (p : String → Prop) : Part → Prop
  | start _ a | single _ a => a.Named p
  | _ => True

/-- No parts in head mode. -/
def outsideHead (s : RenderState) (ps : List Part) : List Part := if s.headMode then [] else ps

theorem pieces_outsideHead {s : RenderState} {r : Reaction} {q : Option String} {ps : List Part}
    (h : r.pieces = ps.map (write q)) :
    (Reaction.outsideHead s r).pieces = (outsideHead s ps).map (write q) := by
  unfold Reaction.outsideHead outsideHead
  split
  · rfl
  · exact h

theorem forall_outsideHead {s : RenderState} {P : Part → Prop} {ps : List Part}
    (h : ∀ x ∈ ps, P x) : ∀ x ∈ outsideHead s ps, P x := by
  unfold outsideHead
  split
  · exact fun _ hx => (List.not_mem_nil hx).elim
  · exact h

end Part

namespace Render

open EventMarkup.Part (outsideHead)

/-- The parts of tagged text. -/
def taggedParts (tags : List String) (t : String) : List Part :=
  tags.map (fun n => .start n ∅) ++ [.text (Text.escape t)] ++ tags.reverse.map .finish

/-- The parts of what an event writes. -/
def parts (st : Style) (s : RenderState) : Event → List Part
  | .text t m => outsideHead s (taggedParts (textTags s m) t)
  | .lineBreak m => outsideHead s [.single "br" (st.admitted .lineBreak m)]
  | .nonBreakingSpace => outsideHead s [.text "&#160;"]
  | .horizontalRule m => outsideHead s [.single "hr" (st.admitted .rule m)]
  | .comment t => [.comment t]
  | .pageBreak => [.comment "PB"]
  | .rawText t => [.raw t]
  | .head | .headEnd | .table _ | .tableRowsEnd => []
  | .sectionStart level m =>
    outsideHead s (if inRange level then [.start "div" (sectionAttributes st m)] else [])
  | .sectionEnd level => outsideHead s (if inRange level then [.finish "div"] else [])
  | .titleStart level m =>
    outsideHead s (if inRange level then [.start (heading level) (st.admitted .heading m)] else [])
  | .titleEnd level => outsideHead s (if inRange level then [.finish (heading level)] else [])
  | .elementStart x m => outsideHead s [.start x.tag (st.admitted x.scope m)]
  | .elementEnd x => outsideHead s [.finish x.tag]
  | .numberedList w m => outsideHead s [.start "ol" (numberedListAttributes st w m)]
  | .numberedListEnd => outsideHead s [.finish "ol"]
  | .verbatim m boxed =>
    let request := verbatimRequest st m boxed
    let container := verbatimContainer st request
    outsideHead s [.start "div" container, .start "pre" (verbatimContent container request)]
  | .verbatimEnd => outsideHead s [.finish "pre", .finish "div"]
  | .tableRows _ grid => [.start "table" (tableAttributes st (s.pendingTable.getD ∅) grid)]
  | .tableEnd => [.finish "table"]
  | .tableRow m => [.start "tr" (rowAttributes st s m)]
  | .tableRowEnd => [.finish "tr"]
  | .cell k m w => [.start (cellTag k) (cellAttributes st s m w)]
  | .cellEnd k => [.finish (cellTag k)]
  | .tableCaption m => [.start "caption" (st.admitted .heading m)]
  | .tableCaptionEnd => [.finish "caption"]
  | .figure none => [.imageStart]
  | .figure (some m) => [.start "div" (figureAttributes st m)]
  | .figureEnd => [if s.figureMode = some .legacy then .text " />" else .finish "div"]
  | .figureGraphics source m =>
    if m.isNone ∧ s.figureMode = some .legacy then
      [.text (" src=\"" ++ Text.escape source ++ "\"")]
    else
      let image := Part.single "img" (imageAttributes st source m)
      if s.inFigure then [.start "p" centred, image, .finish "p"] else [image]
  | .figureCaption m =>
    if m.isNone ∧ s.figureMode = some .legacy then [.text " alt=\""]
    else [.start "p" (centred.merge (st.admitted .basic (m.getD ∅))), .start "i" ∅]
  | .figureCaptionEnd =>
    if s.captionMode = some .legacy then [.text "\""] else [.finish "i", .finish "p"]
  | .link href m target => outsideHead s [.start "a" (linkAttributes st href m target)]
  | .anchor name m => outsideHead s [.start "a" (anchorAttributes st name m)]
  | .linkEnd | .anchorEnd => outsideHead s [.finish "a"]

theorem respond_parts (st : Style) (s : RenderState) (e : Event) :
    (respond st s e).pieces = (parts st s e).map (Part.write st.qualifier) := by
  cases e with
  | text t m =>
    simp only [respond, Render.text, parts, outsideHead]
    split
    · rfl
    · simp [Reaction.write, tagged, taggedParts, Style.startTag, Style.endTag, Part.write,
        Function.comp_def]
  | lineBreak | nonBreakingSpace =>
    simp only [respond, lineBreak, nonBreakingSpace, parts, outsideHead]
    split <;> rfl
  | sectionStart level | sectionEnd level | titleStart level | titleEnd level =>
    refine Part.pieces_outsideHead ?_
    simp only [sectionStart, sectionEnd, titleStart, titleEnd]
    split <;> rfl
  | horizontalRule | elementStart | elementEnd | numberedList | numberedListEnd | verbatim
  | verbatimEnd | link | linkEnd | anchor | anchorEnd => exact Part.pieces_outsideHead rfl
  | figure m => cases m <;> rfl
  | figureEnd =>
    simp only [respond, figureEnd, Reaction.andThen, Reaction.write, parts]
    split <;> rfl
  | figureGraphics source m =>
    simp only [respond, figureGraphics, parts]
    split
    · rfl
    · simp only [Reaction.write]
      split <;> rfl
  | figureCaption m =>
    simp only [respond, figureCaption, parts]
    split <;> rfl
  | figureCaptionEnd =>
    simp only [respond, figureCaptionEnd, Reaction.andThen, Reaction.write, parts]
    split <;> rfl
  | _ => rfl

/-! ## Tags and attributes of the parts -/

theorem textTags_subset (s : RenderState) (m : Mapping) :
    ∀ n ∈ textTags s m, n ∈ ["u", "s", "sub", "sup"] := by
  unfold textTags decorations
  repeat' split
  all_goals decide

theorem parts_fit (st : Style) (s : RenderState) (e : Event) : ∀ x ∈ parts st s e, x.Fits e := by
  cases e with
  | text t m =>
    refine Part.forall_outsideHead ?_
    have htags := textTags_subset s m
    simp only [taggedParts, List.forall_mem_append, List.forall_mem_map, List.mem_reverse,
      List.forall_mem_singleton]
    exact ⟨⟨htags, escape_free t⟩, htags⟩
  | sectionStart level | sectionEnd level | titleStart level | titleEnd level =>
    refine Part.forall_outsideHead ?_
    split <;> simp_all [Part.Fits, Event.tags]
  | lineBreak | nonBreakingSpace | horizontalRule | elementStart | elementEnd | numberedList
  | numberedListEnd | verbatim | verbatimEnd | link | linkEnd | anchor | anchorEnd =>
    refine Part.forall_outsideHead ?_
    simp [Part.Fits, Event.tags, BracketFree]
  | figure m => cases m <;> simp [parts, Part.Fits, Event.tags]
  | figureEnd | figureCaption | figureCaptionEnd =>
    simp only [parts]
    split <;> simp [Part.Fits, Event.tags, BracketFree]
  | figureGraphics source m =>
    simp only [parts]
    split
    · simpa [Part.Fits, BracketFree] using escape_free source
    · split <;> simp [Part.Fits, Event.tags]
  | _ => simp [parts, Part.Fits, Event.tags]

/-- The attributes of the parts have the names that options let through, and those of events. -/
theorem parts_named {o : Options} {p : String → Prop} (ho : o.Names p) {s : RenderState}
    (hs : ∀ a ∈ s.pendingTable, a.Named p) (e : Event) :
    ∀ x ∈ parts o.style s e, x.Named p := by
  cases e with
  | text t m =>
    refine Part.forall_outsideHead ?_
    simp only [taggedParts, List.forall_mem_append, List.forall_mem_map, List.forall_mem_singleton]
    exact ⟨⟨fun _ _ => .empty, trivial⟩, fun _ _ => trivial⟩
  | sectionStart level m | titleStart level m =>
    refine Part.forall_outsideHead ?_
    split <;> simp [Part.Named, ho.sectionAttributes, ho.admitted]
  | sectionEnd level | titleEnd level =>
    refine Part.forall_outsideHead ?_
    split <;> simp [Part.Named]
  | lineBreak m | horizontalRule m | elementStart x m =>
    exact Part.forall_outsideHead (List.forall_mem_singleton.mpr (ho.admitted m _))
  | numberedList w m =>
    exact Part.forall_outsideHead (List.forall_mem_singleton.mpr (ho.numberedListAttributes m w))
  | verbatim m boxed =>
    have hcontainer : (verbatimContainer o.style (verbatimRequest o.style m boxed)).Named p :=
      ho.verbatimContainer (ho.verbatimRequest m boxed)
    refine Part.forall_outsideHead ?_
    simp [Part.Named, hcontainer, ho.verbatimContent hcontainer]
  | link href m target =>
    exact Part.forall_outsideHead (List.forall_mem_singleton.mpr (ho.linkAttributes m href target))
  | anchor name m =>
    exact Part.forall_outsideHead (List.forall_mem_singleton.mpr (ho.anchorAttributes m name))
  | nonBreakingSpace | elementEnd | numberedListEnd | verbatimEnd | linkEnd | anchorEnd =>
    refine Part.forall_outsideHead ?_
    simp [Part.Named]
  | tableRows j grid => exact List.forall_mem_singleton.mpr (ho.awaitedAttributes hs grid)
  | tableRow m => exact List.forall_mem_singleton.mpr (ho.rowAttributes s m)
  | cell k m w => exact List.forall_mem_singleton.mpr (ho.cellAttributes s m w)
  | tableCaption m => exact List.forall_mem_singleton.mpr (ho.admitted m _)
  | figure m =>
    cases m with
    | none => exact List.forall_mem_singleton.mpr trivial
    | some m => exact List.forall_mem_singleton.mpr (ho.figureAttributes m)
  | figureEnd | figureCaptionEnd =>
    simp only [parts]
    split <;> simp [Part.Named]
  | figureGraphics source m =>
    simp only [parts]
    split
    · exact List.forall_mem_singleton.mpr trivial
    · split <;> simp [Part.Named, ho.centred, ho.imageAttributes]
  | figureCaption m =>
    simp only [parts]
    split
    · exact List.forall_mem_singleton.mpr trivial
    · simp [Part.Named, ho.captionAttributes, Attributes.Named.empty]
  | _ => simp [parts, Part.Named]

end Render

end EventMarkup
