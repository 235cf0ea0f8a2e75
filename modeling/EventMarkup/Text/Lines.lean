/-!
# Lines of a text

A text is cut at every line terminator. A terminator ends a line, so the last line needs none and
a text that ends with one has no empty line after it.
-/
namespace EventMarkup.Text

/-- Whether a character ends a line: the line feeds and tabulations, the carriage return, the
information separators but the last, next line, and the line and paragraph separators. -/
def isTerminator (c : Char) : Bool :=
  c = '\n' || c = '\r' || c = '\x0b' || c = '\x0c' || c = '\x1c' || c = '\x1d' || c = '\x1e' ||
    c = '\u0085' || c = '\u2028' || c = '\u2029'

/-- A character before the lines of the rest: it joins the first of them. -/
def joinLine (c : Char) : List (List Char) → List (List Char)
  | [] => [[c]]
  | line :: lines => (c :: line) :: lines

/-- The lines of a text, without their terminators. The CR of a CR LF ends no line of its own. -/
def lineChars : List Char → List (List Char)
  | [] => []
  | c :: rest =>
    if c = '\r' ∧ rest.head? = some '\n' then lineChars rest
    else if isTerminator c then [] :: lineChars rest
    else joinLine c (lineChars rest)

def lines (s : String) : List String := (lineChars s.toList).map String.ofList

end EventMarkup.Text
