import EventMarkup.Event
import EventMarkup.State

/-!
# Constructs

What the start and end events of a document open and close.
-/
namespace EventMarkup

/-- The kinds of constructs that can be open. -/
inductive Construct where
  | sectioning
  | title
  | element (e : Element)
  | numberedList
  | verbatim
  | table
  | tableRows
  | tableRow
  | cell (k : CellKind)
  | tableCaption
  | figure
  | figureCaption
  | link
  | anchor
  | head
  deriving DecidableEq, Repr

def Construct.name : Construct → String
  | sectioning => "section"
  | title => "section_title"
  | element e => e.name
  | numberedList => "numbered_list"
  | verbatim => "verbatim"
  | table => "table"
  | tableRows => "table_rows"
  | tableRow => "table_row"
  | cell k => k.name
  | tableCaption => "table_caption"
  | figure => "figure"
  | figureCaption => "figure_caption"
  | link => "link"
  | anchor => "anchor"
  | head => "head"

/-- The constructs that must directly surround a construct, if it cannot stand everywhere. -/
def Construct.parents : Construct → Option (List Construct)
  | element .listItem => some [element .unorderedList]
  | element .numberedItem => some [numberedList]
  | element .definedTerm | element .definition => some [element .definitionList]
  | tableRows => some [table]
  | tableRow => some [tableRows]
  | cell _ => some [tableRow]
  | tableCaption => some [table, tableRows]
  | figureCaption => some [figure]
  | _ => none

/-- An open construct: sections and titles remember their level, figures their convention. -/
structure OpenConstruct where
  construct : Construct
  level : Option Int := none
  convention : Option Convention := none
  deriving DecidableEq, Repr

end EventMarkup
