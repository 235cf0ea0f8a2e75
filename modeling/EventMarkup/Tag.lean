import EventMarkup.Attributes
import EventMarkup.Text.Escape

/-!
# Tags

A tag name and attributes as markup. Names are written as they are, values with their special
characters as entities, so that no value can end its quotes. An optional qualifier and a colon stand
before the tag name.
-/
namespace EventMarkup.Tag

/-- A tag name with its qualifier, unless that is missing or empty. -/
def qualified (qualifier : Option String) (name : String) : String :=
  match qualifier with
  | none => name
  | some q => if q = "" then name else q ++ ":" ++ name

/-- One attribute, with a space before it. -/
def attributeText (name value : String) : String :=
  " " ++ name ++ "=\"" ++ Text.escape value ++ "\""

def attributes (a : Attributes) : String :=
  a.entries.foldr (fun e rest => attributeText e.1 e.2 ++ rest) ""

def start (qualifier : Option String) (name : String) (a : Attributes) : String :=
  "<" ++ qualified qualifier name ++ attributes a ++ ">"

def single (qualifier : Option String) (name : String) (a : Attributes) : String :=
  "<" ++ qualified qualifier name ++ attributes a ++ " />"

def finish (qualifier : Option String) (name : String) : String :=
  "</" ++ qualified qualifier name ++ ">"

end EventMarkup.Tag
