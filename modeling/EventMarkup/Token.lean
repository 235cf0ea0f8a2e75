/-!
# Tokens of lists and columns

The numbering of an ordered list and the alignment of a table column each come from a small set of
words; any other word stands for the usual one.
-/
namespace EventMarkup.Token

/-- The numberings of ordered lists, the usual one first. -/
def numberings : List String :=
  ["decimal", "lower-alpha", "upper-alpha", "lower-roman", "upper-roman"]

def alignments : List String := ["left", "center", "right"]

/-- The word itself if it is known, else the usual one. -/
def oneOf (known : List String) (usual : String) : Option String → String
  | none => usual
  | some w => if known.contains w then w else usual

/-- The list style of a numbering; unknown ones count in decimal. -/
def numbering (w : Option String) : String := oneOf numberings "decimal" w

/-- The alignment of a column; unknown ones are centred. -/
def alignment (w : Option String) : String := oneOf alignments "center" w

end EventMarkup.Token
