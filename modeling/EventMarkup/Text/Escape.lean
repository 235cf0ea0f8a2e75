/-!
# Character entities

Five characters have a meaning of their own in markup: the ampersand, both angle brackets and both
quotes. `escape` writes each as an entity and everything else as it is, so its result may stand in
element content and between the quotes of an attribute.
-/
namespace EventMarkup.Text

/-- What is written for one character of text. -/
def entity (c : Char) : List Char :=
  if c = '&' then ['&', 'a', 'm', 'p', ';']
  else if c = '<' then ['&', 'l', 't', ';']
  else if c = '>' then ['&', 'g', 't', ';']
  else if c = '\x22' then ['&', 'q', 'u', 'o', 't', ';']
  else if c = '\x27' then ['&', '#', 'x', '2', '7', ';']
  else [c]

/-- The characters with the five special ones written as entities. -/
def escapeChars (cs : List Char) : List Char := cs.flatMap entity

def escape (s : String) : String := String.ofList (escapeChars s.toList)

/-- Text as content: absent text is empty, and escaping can be switched off. -/
def content (enabled : Bool) : Option String → String
  | none => ""
  | some s => if enabled then escape s else s

end EventMarkup.Text
