import EventMarkup.Text.Identifier
import EventMarkup.Text.Lowercase

/-!
# Link destinations

A destination is external if it starts with the scheme of a web, file or mail address. It leads to
another page if it names an HTML file or is no fragment identifier. Every other destination is a
fragment of the same document. Case does not matter to either test.
-/
namespace EventMarkup.Link

def schemes : List (List Char) :=
  ["http:/".toList, "https:/".toList, "ftp:/".toList, "mailto:".toList, "file:/".toList]

/-- What an HTML file with a fragment after it contains. -/
def pageMarks : List (List Char) := [".html#".toList, ".htm#".toList]

/-- How an HTML file ends. -/
def pageEndings : List (List Char) := [".htm".toList, ".html".toList]

def containsRun (run : List Char) : List Char → Bool
  | [] => run.isEmpty
  | c :: rest => run.isPrefixOf (c :: rest) || containsRun run rest

/-- The characters without one number sign at the front. -/
def dropMarker : List Char → List Char
  | [] => []
  | c :: rest => if c = '#' then rest else c :: rest

def hasScheme (cs : List Char) : Bool := schemes.any fun s => s.isPrefixOf cs

/-- Whether lower-case characters name an HTML file, with or without a fragment. -/
def namesPage (cs : List Char) : Bool :=
  pageMarks.any (fun m => containsRun m cs) || pageEndings.any fun e => e.isSuffixOf cs

def isExternal (href : String) : Bool := hasScheme (Text.lowerChars href.toList)

/-- Whether a destination is another page rather than a fragment of this one. -/
def isOtherPage (href : String) : Bool :=
  let cs := Text.lowerChars href.toList
  namesPage cs || !Text.isIdentifierChars (dropMarker cs)

/-- The destination as it is written: a fragment starts with exactly one number sign. -/
def destination (href : String) : String :=
  if isExternal href || isOtherPage href then href
  else String.ofList ('#' :: dropMarker href.toList)

end EventMarkup.Link
