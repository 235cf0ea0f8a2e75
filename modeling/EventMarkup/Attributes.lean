import EventMarkup.OrderedMap
import EventMarkup.Text.Quoted
import EventMarkup.Value

/-!
# Attributes

`Mapping` is what a caller gives an event: names with values of any kind. `Attributes` is what is
written: names with texts. Both keep the order of insertion.
-/
namespace EventMarkup

/-- Attribute names with the values a caller gives. -/
abbrev Mapping := OrderedMap Value

/-- Attribute names with the texts that are written. -/
abbrev Attributes := OrderedMap String

namespace Attributes

/-- The attributes of a mapping: each value as text. -/
def ofMapping (m : Mapping) : Attributes := m.map Value.toText

/-- The attributes with a name set to the text of a value. -/
def assign (a : Attributes) (name : String) (v : Value) : Attributes := a.insert name v.toText

def addAll (a : Attributes) (m : Mapping) : Attributes := a.merge (ofMapping m)

def keepOnly (a : Attributes) (allowed : List String) : Attributes := a.filter allowed.contains

def has (a : Attributes) (name text : String) : Bool := a.get? name == some text

/-- Whether looking an attribute up gives exactly this value; a missing one gives nothing. -/
def holds (a : Attributes) (name : String) (v : Value) : Bool :=
  match a.get? name with
  | some s => v.isText s
  | none => v = .absent

/-- Whether a mapping has the same names with the same texts, whatever their order. -/
def sameAs (a : Attributes) (m : Mapping) : Bool := a.agrees (fun s v => v.isText s) m

/-- Whether two sets have the same names with the same texts, whatever their order. -/
def same (a b : Attributes) : Bool := a.agrees (fun s t => s = t) b

def mergeAll (ms : List Mapping) : Attributes := ms.foldl addAll ∅

/-- The attributes of a mapping whose name is among the allowed ones. -/
def select (m : Mapping) (allowed : List String) : Attributes := (ofMapping m).keepOnly allowed

def shown (a : Attributes) : String :=
  "AttributeSet(\x7b" ++
    String.intercalate ", " (a.entries.map fun e => Text.quoted e.1 ++ ": " ++ Text.quoted e.2) ++
    "\x7d)"

/-! ## Operations that can fail or answer -/

/-- The value of a name, and the set without it. -/
def take? (a : Attributes) (name : String) : Option (String × Attributes) :=
  (a.get? name).map fun v => (v, a.erase name)

/-- The text of a name, or the value given for a missing one, which is then added as text. -/
def getOrAssign (a : Attributes) (name : String) (v : Value) : Value × Attributes :=
  match a.get? name with
  | some s => (.text s, a)
  | none => (v, a.assign name v)

end Attributes

end EventMarkup
