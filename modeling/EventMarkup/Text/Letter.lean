import EventMarkup.Text.LetterTable

/-!
# Letters and alphanumeric characters
-/
namespace EventMarkup.Text

def isLetter (c : Char) : Bool := inRanges c.toNat letters

/-- Whether a character is a letter or has a numeric value. -/
def isAlphanumeric (c : Char) : Bool := isLetter c || inRanges c.toNat numerals

end EventMarkup.Text
