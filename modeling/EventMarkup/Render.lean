import EventMarkup.Event
import EventMarkup.Fault
import EventMarkup.Render.Block
import EventMarkup.Render.Figure
import EventMarkup.Render.Inline
import EventMarkup.Render.Table

/-!
# Rendering

`respond` gives the reaction to every event in every state. In head mode the events of running text
and of document structure do nothing or feed the head buffer; tables, figures, comments and raw text
are written all the same.
-/
namespace EventMarkup

def Element.tag : Element → String
  | .italic => "i"
  | .bold => "b"
  | .monospaced => "tt"
  | .unorderedList => "ul"
  | .listItem | .numberedItem => "li"
  | .definitionList => "dl"
  | .definedTerm => "dt"
  | .definition => "dd"
  | .paragraph => "p"

def Element.scope : Element → Scope
  | .paragraph => .heading
  | _ => .basic

namespace Render

/-- The reaction to an event. -/
def respond (st : Style) (s : RenderState) : Event → Reaction
  | .text t m => text st s t m
  | .lineBreak m => lineBreak st s m
  | .nonBreakingSpace => nonBreakingSpace s
  | .horizontalRule m => .outsideHead s (.write s [st.singleTag "hr" (st.admitted .rule m)])
  | .comment t => .write s [commentText t]
  | .pageBreak => .write s [commentText "PB"]
  | .rawText t => .write s [t]
  | .head => .become { s.resetBuffer with headMode := true }
  | .headEnd => .become { s with headMode := false }
  | .sectionStart level m => .outsideHead s (sectionStart st s level m)
  | .sectionEnd level => .outsideHead s (sectionEnd st s level)
  | .titleStart level m => .outsideHead s (titleStart st s level m)
  | .titleEnd level => .outsideHead s (titleEnd st s level)
  | .elementStart e m => .outsideHead s (.write s [st.startTag e.tag (st.admitted e.scope m)])
  | .elementEnd e => .outsideHead s (.write s [st.endTag e.tag])
  | .numberedList numbering m =>
    .outsideHead s (.write s [st.startTag "ol" (numberedListAttributes st numbering m)])
  | .numberedListEnd => .outsideHead s (.write s [st.endTag "ol"])
  | .verbatim m boxed => .outsideHead s (verbatim st s m boxed)
  | .verbatimEnd => .outsideHead s (verbatimEnd st s)
  | .table m => table st s m
  | .tableEnd => .write s [st.endTag "table"]
  | .tableRows j grid => tableRows st s j grid
  | .tableRowsEnd => tableRowsEnd s
  | .tableRow m => tableRow st s m
  | .tableRowEnd => tableRowEnd st s
  | .cell k m width => .write s [st.startTag (cellTag k) (cellAttributes st s m width)]
  | .cellEnd k => cellEnd st s k
  | .tableCaption m => .write s [st.startTag "caption" (st.admitted .heading m)]
  | .tableCaptionEnd => .write s [st.endTag "caption"]
  | .figure m => figure st s m
  | .figureEnd => figureEnd st s
  | .figureGraphics source m => figureGraphics st s source m
  | .figureCaption m => figureCaption st s m
  | .figureCaptionEnd => figureCaptionEnd st s
  | .link href m target =>
    .outsideHead s (.write s [st.startTag "a" (linkAttributes st href m target)])
  | .linkEnd => .outsideHead s (.write s [st.endTag "a"])
  | .anchor name m => .outsideHead s (.write s [st.startTag "a" (anchorAttributes st name m)])
  | .anchorEnd => .outsideHead s (.write s [st.endTag "a"])

/-- The fault of an event that looks up a column that does not exist. -/
def lookupFault? (s : RenderState) : Event → Option Fault
  | .cell .. =>
    match s.currentJustification with
    | .ok _ => none
    | .error f => some (.noColumn f)
  | _ => none

end Render

end EventMarkup
