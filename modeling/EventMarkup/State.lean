import EventMarkup.Attributes

/-!
# Render state

What a sink remembers between two events of one document.
-/
namespace EventMarkup

/-- How a figure is written: a legacy figure is a single image tag that its parts add to, a current
one is a container. -/
inductive Convention where
  | legacy
  | current
  deriving DecidableEq, Repr

def Convention.name : Convention → String
  | legacy => "legacy"
  | current => "current"

def Convention.ofName? (s : String) : Option Convention :=
  if s = "legacy" then some .legacy else if s = "current" then some .current else none

/-- The alignments of columns. A table declares a tuple of them; a caller who sets the field of a
state gives a list. Both serve alike, and a complaint names which it is. -/
structure Columns where
  entries : List (Option String)
  isTuple : Bool := true
  deriving DecidableEq, Repr, Inhabited

/-- Why a cell has no column. -/
inductive ColumnFault where
  /-- The index lies before the first entry. -/
  | outside (isTuple : Bool)
  /-- The index is too low for a machine word. -/
  | beyond
  deriving DecidableEq, Repr

/-- What is wrong with the index. -/
def ColumnFault.message : ColumnFault → String
  | outside isTuple => (if isTuple then "tuple" else "list") ++ " index out of range"
  | beyond => "cannot fit 'int' into an index-sized integer"

namespace Columns

/-- The entry at an index: a negative one counts from the end, the last entry serves all indices
past it. -/
def entryAt (c : Columns) (last : Option String) (i : Int) : Except ColumnFault (Option String) :=
  if 0 ≤ i then .ok (c.entries[i.toNat]?.getD last)
  else if -i ≤ c.entries.length then .ok (c.entries[(c.entries.length + i).toNat]?.getD last)
  else if i < -9223372036854775808 then .error .beyond
  else .error (.outside c.isTuple)

end Columns

/-- The state of one render. Text goes to `headBuffer` in head mode; table attributes wait in
`pendingTable` until the rows of the table start. -/
structure RenderState where
  headMode : Bool := false
  verbatimMode : Bool := false
  justification : Option Columns := none
  hasJustification : Bool := false
  cellIndex : Int := 0
  rowIsEven : Bool := true
  pendingTable : Option Attributes := none
  figureMode : Option Convention := none
  captionMode : Option Convention := none
  headBuffer : List String := []
  deriving DecidableEq, Repr, Inhabited

namespace RenderState

def initial : RenderState := {}

def inFigure (s : RenderState) : Bool := s.figureMode = some .current

def setJustification (s : RenderState) (j : Option (List (Option String))) : RenderState :=
  { s with justification := j.map fun entries => { entries }, hasJustification := true }

def clearJustification (s : RenderState) : RenderState :=
  { s with justification := none, hasJustification := false }

/-- The alignment declared for the current cell, if there is one. -/
def currentJustification (s : RenderState) : Except ColumnFault (Option String) :=
  match s.hasJustification, s.justification with
  | true, some columns =>
    match columns.entries.getLast? with
    | none => .ok none
    | some last => columns.entryAt last s.cellIndex
  | _, _ => .ok none

def headText (s : RenderState) : String := String.join s.headBuffer

def resetBuffer (s : RenderState) : RenderState := { s with headBuffer := [] }

/-- Every field back at its first value. -/
def reset (s : RenderState) : RenderState :=
  { s.resetBuffer.clearJustification with
    headMode := false
    verbatimMode := false
    cellIndex := 0
    rowIsEven := true
    pendingTable := none
    figureMode := none
    captionMode := none }

end RenderState

end EventMarkup
