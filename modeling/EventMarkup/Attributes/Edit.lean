import EventMarkup.Attributes
import EventMarkup.Outcome

/-!
# Edits

What can be asked of a set of attributes, one edit after the other. An edit that needs a name which
is missing fails unless it brings a value to answer with, and a failed edit changes nothing.
-/
namespace EventMarkup.Attributes

/-- What can be asked of a set of attributes. -/
inductive Edit where
  | look (name : String)
  | lookOr (name : String) (fallback : Value)
  | lookOrAssign (name : String) (value : Value)
  | assign (name : String) (value : Value)
  | delete (name : String)
  | take (name : String) (fallback : Option Value)
  | takeFirst
  | addAll (m : Mapping)
  | remove (names : List String)
  | clear
  deriving DecidableEq, Repr

inductive Answer where
  | nothing
  | value (v : Value)
  | entry (name text : String)
  deriving DecidableEq, Repr

def edit (a : Attributes) : Edit → Outcome Attributes Answer
  | .look name =>
    match a.get? name with
    | some t => .done a (.value (.text t))
    | none => .fail a (.missingName name)
  | .lookOr name fallback =>
    match a.get? name with
    | some t => .done a (.value (.text t))
    | none => .done a (.value fallback)
  | .lookOrAssign name v =>
    let (given, after) := a.getOrAssign name v
    .done after (.value given)
  | .assign name v => .done (a.assign name v) .nothing
  | .delete name =>
    if a.contains name then .done (a.erase name) .nothing else .fail a (.missingName name)
  | .take name fallback =>
    match a.take? name, fallback with
    | some (t, rest), _ => .done rest (.value (.text t))
    | none, some v => .done a (.value v)
    | none, none => .fail a (.missingName name)
  | .takeFirst =>
    match a.popFirst? with
    | some ((name, t), rest) => .done rest (.entry name t)
    | none => .fail a .emptySet
  | .addAll m => .done (a.addAll m) .nothing
  | .remove names => .done (a.eraseAll names) .nothing
  | .clear => .done ∅ .nothing

/-- Does one edit after the other, failed ones included. -/
def editAll (a : Attributes) : List Edit → Attributes
  | [] => a
  | e :: rest => editAll (a.edit e).after rest

end EventMarkup.Attributes
