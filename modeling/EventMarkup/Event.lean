import EventMarkup.Attributes

/-!
# Document events

A document reaches a sink as a sequence of events: texts and other leaves, and the starts and ends
of constructs. Attributes of an event are empty when the caller gives none. The three figure events
tell absent attributes (`none`) from given ones, because the choice selects the figure convention.
-/
namespace EventMarkup

/-- Constructs that are one element with the attributes that its scope lets through. -/
inductive Element where
  | italic
  | bold
  | monospaced
  | unorderedList
  | listItem
  | numberedItem
  | definitionList
  | definedTerm
  | definition
  | paragraph
  deriving DecidableEq, Repr

inductive CellKind where
  | data
  | header
  deriving DecidableEq, Repr

/-- One event of a document. -/
inductive Event where
  | text (content : String) (attributes : Mapping)
  | lineBreak (attributes : Mapping)
  | nonBreakingSpace
  | horizontalRule (attributes : Mapping)
  | comment (content : String)
  | pageBreak
  | rawText (content : String)
  | head
  | headEnd
  | sectionStart (level : Int) (attributes : Mapping)
  | sectionEnd (level : Int)
  | titleStart (level : Int) (attributes : Mapping)
  | titleEnd (level : Int)
  | elementStart (element : Element) (attributes : Mapping)
  | elementEnd (element : Element)
  | numberedList (numbering : Option String) (attributes : Mapping)
  | numberedListEnd
  | verbatim (attributes : Mapping) (boxed : Bool)
  | verbatimEnd
  | table (attributes : Mapping)
  | tableEnd
  | tableRows (justification : Option (List (Option String))) (grid : Bool)
  | tableRowsEnd
  | tableRow (attributes : Mapping)
  | tableRowEnd
  | cell (kind : CellKind) (attributes : Mapping) (width : Value)
  | cellEnd (kind : CellKind)
  | tableCaption (attributes : Mapping)
  | tableCaptionEnd
  | figure (attributes : Option Mapping)
  | figureEnd
  | figureGraphics (source : String) (attributes : Option Mapping)
  | figureCaption (attributes : Option Mapping)
  | figureCaptionEnd
  | link (href : String) (attributes : Mapping) (target : Value)
  | linkEnd
  | anchor (name : Option String) (attributes : Mapping)
  | anchorEnd
  deriving DecidableEq, Repr

def Element.name : Element → String
  | italic => "italic"
  | bold => "bold"
  | monospaced => "monospaced"
  | unorderedList => "unordered_list"
  | listItem => "list_item"
  | numberedItem => "numbered_list_item"
  | definitionList => "definition_list"
  | definedTerm => "defined_term"
  | definition => "definition"
  | paragraph => "paragraph"

def CellKind.name : CellKind → String
  | data => "table_cell"
  | header => "table_header_cell"

namespace Event

def name : Event → String
  | text .. => "text"
  | lineBreak .. => "line_break"
  | nonBreakingSpace => "non_breaking_space"
  | horizontalRule .. => "horizontal_rule"
  | comment .. => "comment"
  | pageBreak => "page_break"
  | rawText .. => "raw_text"
  | head => "head"
  | headEnd => "head_end"
  | sectionStart .. => "section"
  | sectionEnd .. => "section_end"
  | titleStart .. => "section_title"
  | titleEnd .. => "section_title_end"
  | elementStart e _ => e.name
  | elementEnd e => e.name ++ "_end"
  | numberedList .. => "numbered_list"
  | numberedListEnd => "numbered_list_end"
  | verbatim .. => "verbatim"
  | verbatimEnd => "verbatim_end"
  | table .. => "table"
  | tableEnd => "table_end"
  | tableRows .. => "table_rows"
  | tableRowsEnd => "table_rows_end"
  | tableRow .. => "table_row"
  | tableRowEnd => "table_row_end"
  | cell k .. => k.name
  | cellEnd k => k.name ++ "_end"
  | tableCaption .. => "table_caption"
  | tableCaptionEnd => "table_caption_end"
  | figure .. => "figure"
  | figureEnd => "figure_end"
  | figureGraphics .. => "figure_graphics"
  | figureCaption .. => "figure_caption"
  | figureCaptionEnd => "figure_caption_end"
  | link .. => "link"
  | linkEnd => "link_end"
  | anchor .. => "anchor"
  | anchorEnd => "anchor_end"

/-- Whether an event concerns text and its inline styles only. -/
def isTextual : Event → Bool
  | text .. | lineBreak .. | nonBreakingSpace | head | headEnd => true
  | elementStart .italic _ | elementStart .bold _ | elementStart .monospaced _ => true
  | elementEnd .italic | elementEnd .bold | elementEnd .monospaced => true
  | _ => false

end Event

end EventMarkup
