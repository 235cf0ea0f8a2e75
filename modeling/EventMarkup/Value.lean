import EventMarkup.Decimal

/-!
# Attribute values

A caller may give an attribute a text, an integer, a truth value, a decimal fraction or nothing; the
attribute written holds the text of it.
-/
namespace EventMarkup

inductive Value where
  | text (s : String)
  | integer (n : Int)
  | truth (b : Bool)
  | decimal (d : Decimal)
  | absent
  deriving DecidableEq, Repr, Inhabited

namespace Value

def toText : Value → String
  | text s => s
  | integer n => toString n
  | truth true => "True"
  | truth false => "False"
  | decimal d => d.toText
  | absent => "None"

/-- Whether a value is exactly this text; only a text is. -/
def isText (s : String) : Value → Bool
  | text t => t = s
  | _ => false

end Value

end EventMarkup
