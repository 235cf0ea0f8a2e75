import EventMarkup.Event

/-!
# Blocks

A page of wiki markup is a sequence of blocks: figures and paragraphs. A block tells itself as the
events of a document; a figure uses the legacy convention.
-/
namespace EventMarkup.Wiki

inductive Block where
  | figure (image : String) (caption : Option String)
  | paragraph (text : String)
  deriving DecidableEq, Repr

def captionEvents (caption : String) : List Event :=
  [.figureCaption none, .text caption ∅, .figureCaptionEnd]

def Block.events : Block → List Event
  | figure image caption =>
    [.figure none, .figureGraphics image none] ++
      ((caption.map captionEvents).getD [] ++ [.figureEnd])
  | paragraph text => [.elementStart .paragraph ∅, .text text ∅, .elementEnd .paragraph]

end EventMarkup.Wiki
