import EventMarkup.Attributes
import EventMarkup.Options
import EventMarkup.Tag

/-!
# Style

Everything outside the render state that the markup of an event depends on. Options determine a
style; a sink with basic options only lets every attribute through.
-/
namespace EventMarkup

/-- What markup looks like: line ending, qualifier, classes and allowed attributes. A scope without
a list of names lets every attribute through. -/
structure Style where
  lineEnding : Text.LineEnding := .lf
  qualifier : Option String := none
  sectionClass : String := "section"
  tableClass : String := "bodyTable"
  oddClass : String := "a"
  evenClass : String := "b"
  figureClass : String := "figure"
  externalLinkClass : String := "externalLink"
  sourceClass : String := "source"
  allowed : Scope → Option (List String) := fun _ => none

def BasicOptions.style (o : BasicOptions) : Style := { lineEnding := o.lineEnding }

def Options.style (o : Options) : Style :=
  { lineEnding := o.lineEnding
    qualifier := o.qualifier
    sectionClass := o.sectionClass.toText
    tableClass := o.tableClass.toText
    oddClass := o.oddClass
    evenClass := o.evenClass
    figureClass := o.figureClass.toText
    externalLinkClass := o.externalLinkClass.toText
    sourceClass := o.sourceClass.toText
    allowed := fun s => some (o.allowed s) }

namespace Style

/-- The attributes of a mapping that a scope lets through. -/
def admitted (st : Style) (s : Scope) (m : Mapping) : Attributes :=
  match st.allowed s with
  | none => .ofMapping m
  | some names => .select m names

def startTag (st : Style) (name : String) (a : Attributes) : String := Tag.start st.qualifier name a

def singleTag (st : Style) (name : String) (a : Attributes) : String :=
  Tag.single st.qualifier name a

def endTag (st : Style) (name : String) : String := Tag.finish st.qualifier name

end Style

end EventMarkup
