import EventMarkup.Scope
import EventMarkup.Text.LineEnding
import EventMarkup.Word

/-!
# Options

What a sink can be told: how lines end, how text is encoded, which classes markup gets, which
qualifier tags get and which attributes are let through. Options are valid by construction; a change
is checked field by field and the first field at fault is reported.
-/
namespace EventMarkup

open Text (LineEnding)

structure BasicOptions where
  lineEnding : LineEnding := .lf
  encoding : String := "utf-8"
  encoding_ne : encoding ≠ "" := by decide

/-- Whether a text may qualify tag names: it is not empty and holds no colon. -/
def isQualifier (s : String) : Bool := s ≠ "" && !s.toList.contains ':'

/-- Options of a sink that renders all events. Rows take their classes in turn. -/
structure Options extends BasicOptions where
  sectionClass : Word := .text "section"
  tableClass : Word := .text "bodyTable"
  oddClass : String := "a"
  evenClass : String := "b"
  figureClass : Word := .text "figure"
  externalLinkClass : Word := .text "externalLink"
  sourceClass : Word := .text "source"
  qualifier : Option String := none
  qualifier_ok : ∀ q ∈ qualifier, isQualifier q = true := by intro _ h; cases h
  overrides : List (Scope × List String) := []

def BasicOptions.usual : BasicOptions := {}

def Options.usual : Options := {}

def Options.allowed (o : Options) (s : Scope) : List String :=
  match o.overrides.lookup s with
  | some names => names
  | none => s.defaultNames

/-- A field of options that holds no valid value. -/
inductive OptionFault where
  | lineEnding (given : String)
  | encoding
  | rowClasses (given : Nat)
  | qualifier (given : Word)
  | scopes (unknown : List String)
  deriving DecidableEq, Repr

def OptionFault.message : OptionFault → String
  | lineEnding given =>
    "line_separator must be one of '\\n', '\\r\\n', '\\r', got " ++ Text.quoted given
  | encoding => "encoding must be a non-empty string"
  | rowClasses given => "row_classes must contain exactly two classes, got " ++ toString given
  | qualifier given =>
    "namespace must be a non-empty prefix without ':', got " ++ given.shown
  | scopes unknown =>
    "Unknown attribute whitelist construct(s): " ++ String.intercalate ", " unknown

/-- New values for some of the basic fields. -/
structure BasicChanges where
  lineEnding : Option String := none
  encoding : Option String := none

/-- New values for some fields. A given qualifier or table of overrides may be the lack of one. -/
structure OptionChanges extends BasicChanges where
  sectionClass : Option Word := none
  tableClass : Option Word := none
  rowClasses : Option (List String) := none
  figureClass : Option Word := none
  externalLinkClass : Option Word := none
  sourceClass : Option Word := none
  qualifier : Option (Option Word) := none
  overrides : Option (List (String × List String)) := none

/-- A value that was checked, or the old one if none was given. -/
def checked {α β : Type} (old : β) (given : Option α) (check : α → Except OptionFault β) :
    Except OptionFault β :=
  match given with
  | none => .ok old
  | some a => check a

/-- The line ending that a field names. -/
def checkLineEnding (s : String) : Except OptionFault LineEnding :=
  match LineEnding.ofText? s with
  | some e => .ok e
  | none => .error (.lineEnding s)

/-- A label of an encoding that is not empty. -/
def checkEncoding (s : String) : Except OptionFault { s : String // s ≠ "" } :=
  if h : s = "" then .error .encoding else .ok ⟨s, h⟩

def checkRowClasses : List String → Except OptionFault (String × String)
  | [odd, even] => .ok (odd, even)
  | l => .error (.rowClasses l.length)

/-- A qualifier, or the lack of one. What is no word is no qualifier. -/
def checkQualifier :
    Option Word → Except OptionFault { q : Option String // ∀ s ∈ q, isQualifier s = true }
  | none => .ok ⟨none, by simp⟩
  | some .nothing => .error (.qualifier .nothing)
  | some (.text s) => if h : isQualifier s = true then .ok ⟨some s, by simpa using h⟩
    else .error (.qualifier (.text s))

/-- The scopes that a table of overrides names; unknown names are reported in order. -/
def checkOverrides (table : List (String × List String)) :
    Except OptionFault (List (Scope × List String)) :=
  match (table.map Prod.fst).filter fun k => (Scope.ofKey? k).isNone with
  | [] => .ok (table.filterMap fun e => (Scope.ofKey? e.1).map fun s => (s, e.2))
  | unknown => .error (.scopes (unknown.mergeSort fun a b => decide (a ≤ b)))

namespace BasicOptions

/-- The options with some fields changed, or the first field at fault. -/
def update (o : BasicOptions) (c : BasicChanges) : Except OptionFault BasicOptions := do
  let lineEnding ← checked o.lineEnding c.lineEnding checkLineEnding
  let encoding ← checked ⟨o.encoding, o.encoding_ne⟩ c.encoding checkEncoding
  return ⟨lineEnding, encoding.1, encoding.2⟩

end BasicOptions

namespace Options

def update (o : Options) (c : OptionChanges) : Except OptionFault Options := do
  let basic ← o.toBasicOptions.update c.toBasicChanges
  let rows ← checked (o.oddClass, o.evenClass) c.rowClasses checkRowClasses
  let qualifier ← checked ⟨o.qualifier, o.qualifier_ok⟩ c.qualifier checkQualifier
  let overrides ← checked o.overrides c.overrides checkOverrides
  return {
    toBasicOptions := basic
    sectionClass := c.sectionClass.getD o.sectionClass
    tableClass := c.tableClass.getD o.tableClass
    oddClass := rows.1
    evenClass := rows.2
    figureClass := c.figureClass.getD o.figureClass
    externalLinkClass := c.externalLinkClass.getD o.externalLinkClass
    sourceClass := c.sourceClass.getD o.sourceClass
    qualifier := qualifier.1
    qualifier_ok := qualifier.2
    overrides := overrides }

end Options

end EventMarkup
