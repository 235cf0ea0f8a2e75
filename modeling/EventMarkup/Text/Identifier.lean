import EventMarkup.Text.Blank
import EventMarkup.Text.Letter

/-!
# Fragment identifiers

An identifier starts with a letter and holds letters, numerals and the marks `-`, `_`, `:` and `.`.
Any name can be turned into one: blanks around it go, inner spaces become `_`, other characters are
dropped, and `a` comes first when the name does not start with a letter.
-/
namespace EventMarkup.Text

def isIdentifierChar (c : Char) : Bool :=
  isAlphanumeric c || c = '-' || c = '_' || c = ':' || c = '.'

/-- Whether the characters form an identifier. -/
def isIdentifierChars : List Char → Bool
  | [] => false
  | c :: rest => isLetter c && (c :: rest).all isIdentifierChar

def isIdentifier (s : String) : Bool := isIdentifierChars s.toList

/-- What one character of a name contributes to its identifier. -/
def identifierUnit (c : Char) : List Char :=
  if c = ' ' then ['_'] else if isIdentifierChar c then [c] else []

/-- The identifier of a name without blanks around it. -/
def identifierChars : List Char → List Char
  | [] => []
  | c :: rest => (if isLetter c then [] else ['a']) ++ (c :: rest).flatMap identifierUnit

/-- The identifier of a name; empty only for a name of blanks. -/
def toIdentifier (name : String) : String :=
  String.ofList (identifierChars (trimChars name.toList))

end EventMarkup.Text
