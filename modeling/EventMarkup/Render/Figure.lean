import EventMarkup.Reaction
import EventMarkup.Style

/-!
# Figures

A legacy figure is a single image tag built from fragments: the figure starts the tag, the graphics
add its source, the caption text becomes its alternative text. A current figure is a container with
a centred image and a caption in italics. The events at the start settle which one it is, and the
state carries it to the others.
-/
namespace EventMarkup.Render

def figureAttributes (st : Style) (m : Mapping) : Attributes :=
  let admitted := st.admitted .basic m
  if admitted.contains "class" then admitted else admitted.insert "class" st.figureClass

/-- The complaint about a figure that is still open. -/
def openFigure (s : RenderState) : List Notice :=
  match s.figureMode with
  | none => []
  | some c => [.figureStillOpen c]

def figure (st : Style) (s : RenderState) : Option Mapping → Reaction
  | none =>
    (Reaction.write { s with figureMode := some .legacy }
      ["<" ++ Tag.qualified st.qualifier "img"]).noting (openFigure s)
  | some m =>
    (Reaction.write { s with figureMode := some .current }
      [st.startTag "div" (figureAttributes st m)]).noting (openFigure s)

def figureEnd (st : Style) (s : RenderState) : Reaction :=
  (Reaction.write s [if s.figureMode = some .legacy then " />" else st.endTag "div"]).andThen
    { s with figureMode := none }

def imageAttributes (st : Style) (source : String) (m : Option Mapping) : Attributes :=
  ((∅ : Attributes).insert "src" source).merge (st.admitted .image (m.getD ∅))

/-- The attributes of a centred paragraph. -/
def centred : Attributes := (∅ : Attributes).insert "align" "center"

/-- The image of a figure, or an image on its own. -/
def figureGraphics (st : Style) (s : RenderState) (source : String) (m : Option Mapping) :
    Reaction :=
  if m.isNone ∧ s.figureMode = some .legacy then
    .write s [" src=\"" ++ Text.escape source ++ "\""]
  else
    let image := st.singleTag "img" (imageAttributes st source m)
    .write s
      (if s.inFigure then [st.startTag "p" centred, image, st.endTag "p"] else [image])

def figureCaption (st : Style) (s : RenderState) (m : Option Mapping) : Reaction :=
  if m.isNone ∧ s.figureMode = some .legacy then
    .write { s with captionMode := some .legacy } [" alt=\""]
  else
    .write { s with captionMode := some .current }
      [st.startTag "p" (centred.merge (st.admitted .basic (m.getD ∅))), st.startTag "i" ∅]

def figureCaptionEnd (st : Style) (s : RenderState) : Reaction :=
  (Reaction.write s
    (if s.captionMode = some .legacy then ["\""] else [st.endTag "i", st.endTag "p"])).andThen
    { s with captionMode := none }

end EventMarkup.Render
