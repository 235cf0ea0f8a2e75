import EventMarkup.Event
import EventMarkup.Notice

/-!
# Guards

A guard knows the open constructs of a document and lets an event pass only where it is in order:

* an end closes the construct opened last, and repeats the level of a section or title;
* parts of lists, tables and figures stand directly in their wholes;
* a table does not stand directly in another one;
* a legacy figure gets no part with attributes.

An event that is refused changes nothing.
-/
namespace EventMarkup

/-- What an event does to the open constructs. -/
inductive Nesting where
  | leaf
  | opens (c : OpenConstruct)
  | closes (c : Construct) (level : Option Int)
  deriving DecidableEq, Repr

/-- The convention that the attributes of a figure settle. -/
def conventionOf (attributes : Option Mapping) : Convention :=
  if attributes.isNone then .legacy else .current

/-- What an event does to the open constructs. -/
def Event.nesting : Event → Nesting
  | .text .. | .lineBreak _ | .nonBreakingSpace | .horizontalRule _ | .comment _ | .pageBreak
  | .rawText _ | .figureGraphics .. => .leaf
  | .head => .opens { construct := .head }
  | .headEnd => .closes .head none
  | .sectionStart level _ => .opens { construct := .sectioning, level := some level }
  | .sectionEnd level => .closes .sectioning (some level)
  | .titleStart level _ => .opens { construct := .title, level := some level }
  | .titleEnd level => .closes .title (some level)
  | .elementStart e _ => .opens { construct := .element e }
  | .elementEnd e => .closes (.element e) none
  | .numberedList .. => .opens { construct := .numberedList }
  | .numberedListEnd => .closes .numberedList none
  | .verbatim .. => .opens { construct := .verbatim }
  | .verbatimEnd => .closes .verbatim none
  | .table _ => .opens { construct := .table }
  | .tableEnd => .closes .table none
  | .tableRows .. => .opens { construct := .tableRows }
  | .tableRowsEnd => .closes .tableRows none
  | .tableRow _ => .opens { construct := .tableRow }
  | .tableRowEnd => .closes .tableRow none
  | .cell k .. => .opens { construct := .cell k }
  | .cellEnd k => .closes (.cell k) none
  | .tableCaption _ => .opens { construct := .tableCaption }
  | .tableCaptionEnd => .closes .tableCaption none
  | .figure m => .opens { construct := .figure, convention := some (conventionOf m) }
  | .figureEnd => .closes .figure none
  | .figureCaption _ => .opens { construct := .figureCaption }
  | .figureCaptionEnd => .closes .figureCaption none
  | .link .. => .opens { construct := .link }
  | .linkEnd => .closes .link none
  | .anchor .. => .opens { construct := .anchor }
  | .anchorEnd => .closes .anchor none

/-- Whether an event is a part of a figure that is given attributes. -/
def Event.isAttributedPart : Event → Bool
  | .figureGraphics _ m | .figureCaption m => m.isSome
  | _ => false

/-- The open constructs of a document, innermost first. -/
abbrev Guard := List OpenConstruct

namespace Guard

/-- The names of the open constructs, outermost first. -/
def names (g : Guard) : List String := (g.map fun o => o.construct.name).reverse

/-- Whether a construct may stand where the guard is. -/
def admits (g : Guard) (c : Construct) : Bool :=
  match c.parents, g.head? with
  | none, _ => true
  | some _, none => false
  | some parents, some top => parents.contains top.construct

/-- The complaint about a start at this place, unless all is well. -/
def placeFault? (g : Guard) (event : String) (c : Construct) : Option OrderFault :=
  if g.admits c then
    if c = .table ∧ g.head?.map (·.construct) = some .table then some .tableInTable else none
  else some (.misplaced event (c.parents.getD []))

/-- The complaint about a part with attributes, unless all is well. -/
def mixFault? (g : Guard) (e : Event) : Option OrderFault :=
  if e.isAttributedPart ∧ g.head?.bind (·.convention) = some .legacy then
    some (.attributedPart e.name)
  else none

/-- The guard after the end of a construct. -/
def closing (g : Guard) (event : String) (c : Construct) (level : Option Int) :
    Except OrderFault Guard :=
  match g with
  | [] => .error (.notOpen event c)
  | top :: rest =>
    if top.construct = c then
      match level, top.level with
      | some given, some opened =>
        if given = opened then .ok rest else .error (.wrongLevel event opened)
      | _, _ => .ok rest
    else .error (.closeFirst event top.construct)

/-- The guard after an event, or the complaint about it. -/
def accept (g : Guard) (e : Event) : Except OrderFault Guard :=
  match e.nesting with
  | .leaf =>
    match g.mixFault? e with
    | some f => .error f
    | none => .ok g
  | .opens c =>
    match g.placeFault? e.name c.construct, g.mixFault? e with
    | some f, _ => .error f
    | none, some f => .error f
    | none, none => .ok (c :: g)
  | .closes c level => g.closing e.name c level

def endFault? (g : Guard) : Option OrderFault :=
  if g.isEmpty then none else some (.unclosed (g.map (·.construct)))

def endNotices (g : Guard) : List Notice :=
  if g.isEmpty then [] else [.closedUnbalanced (g.map (·.construct)).reverse]

end Guard

end EventMarkup
