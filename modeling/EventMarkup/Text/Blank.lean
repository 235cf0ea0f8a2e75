import EventMarkup.Text.CodeRange

/-!
# White space

Blank characters, blank lines, and text without the blanks around it. The blanks are the Unicode
white space together with the four information separators U+001C to U+001F.
-/
namespace EventMarkup.Text

/-- Code points of white space. -/
def blanks : List CodeRange :=
  [(0x9, 0xd), (0x1c, 0x20), (0x85, 0x85), (0xa0, 0xa0), (0x1680, 0x1680), (0x2000, 0x200a),
    (0x2028, 0x2029), (0x202f, 0x202f), (0x205f, 0x205f), (0x3000, 0x3000)]

def isBlank (c : Char) : Bool := inRanges c.toNat blanks

/-- The characters without the blanks at both ends. -/
def trimChars (cs : List Char) : List Char :=
  ((cs.dropWhile isBlank).reverse.dropWhile isBlank).reverse

def trim (s : String) : String := String.ofList (trimChars s.toList)

def isBlankText (s : String) : Bool := s.toList.all isBlank

end EventMarkup.Text
