import EventMarkup.Text.Quoted

/-!
# Words

What a caller names in a single word: a class, a path. On the command line a flag may be given the
separator in place of a word, and then has none; an empty list stands where the word would.
-/
namespace EventMarkup

/-- A word, or the lack of one. -/
inductive Word where
  | text (s : String)
  | nothing
  deriving DecidableEq, Repr

namespace Word

def toText : Word → String
  | text s => s
  | nothing => "[]"

/-- A word as a complaint shows it. -/
def shown : Word → String
  | text s => Text.quoted s
  | nothing => "[]"

/-- The path that a word gives; neither an empty one nor the lack of one is a path. -/
def path? : Word → Option String
  | text s => if s = "" then none else some s
  | nothing => none

end Word

end EventMarkup
