import EventMarkup.Reaction
import EventMarkup.Style
import EventMarkup.Token

/-!
# Sections, lists, verbatim blocks and comments

A section of level one to five is a `div`, its title a heading one level below; other levels write
nothing. A verbatim block is a `pre` in a `div` that share the attributes.
-/
namespace EventMarkup.Render

/-- Whether sections of a level are written. -/
def inRange (level : Int) : Bool := 1 ≤ level && level ≤ 5

def heading (level : Int) : String := "h" ++ toString (level + 1)

def sectionAttributes (st : Style) (m : Mapping) : Attributes :=
  ((∅ : Attributes).insert "class" st.sectionClass).merge (st.admitted .basic m)

def sectionStart (st : Style) (s : RenderState) (level : Int) (m : Mapping) : Reaction :=
  if inRange level then .write s [st.startTag "div" (sectionAttributes st m)]
  else .tell s (.sectionIgnored level)

def sectionEnd (st : Style) (s : RenderState) (level : Int) : Reaction :=
  if inRange level then .write s [st.endTag "div"] else .become s

def titleStart (st : Style) (s : RenderState) (level : Int) (m : Mapping) : Reaction :=
  if inRange level then .write s [st.startTag (heading level) (st.admitted .heading m)]
  else .tell s (.titleIgnored level)

def titleEnd (st : Style) (s : RenderState) (level : Int) : Reaction :=
  if inRange level then .write s [st.endTag (heading level)] else .become s

/-! ## Lists -/

/-- The attributes of an ordered list: its style is computed. -/
def numberedListAttributes (st : Style) (numbering : Option String) (m : Mapping) : Attributes :=
  (st.admitted .heading m).insert "style" ("list-style-type: " ++ Token.numbering numbering)

/-! ## Verbatim blocks -/

/-- The attributes of a verbatim block, the request for a box included. -/
def verbatimRequest (st : Style) (m : Mapping) (boxed : Bool) : Attributes :=
  if boxed then (st.admitted .verbatim m).insert "decoration" "boxed" else st.admitted .verbatim m

def verbatimContainer (st : Style) (request : Attributes) : Attributes :=
  (if request.has "decoration" "boxed" then request.insert "class" st.sourceClass
    else request).eraseAll ["decoration", "width"]

/-- The attributes of the text of a verbatim block: those of its container without alignment, class
and identifier, and the width. -/
def verbatimContent (container request : Attributes) : Attributes :=
  let rest := container.eraseAll ["align", "class", "id"]
  match request.get? "width" with
  | none => rest
  | some w => rest.insert "width" w

def verbatim (st : Style) (s : RenderState) (m : Mapping) (boxed : Bool) : Reaction :=
  let request := verbatimRequest st m boxed
  let container := verbatimContainer st request
  .write { s with verbatimMode := true }
    [st.startTag "div" container, st.startTag "pre" (verbatimContent container request)]

def verbatimEnd (st : Style) (s : RenderState) : Reaction :=
  (Reaction.write s [st.endTag "pre", st.endTag "div"]).andThen { s with verbatimMode := false }

/-! ## Comments -/

/-- The characters with a space after each hyphen that another one follows. -/
def splitHyphens : List Char → List Char
  | [] => []
  | c :: rest =>
    if c = '-' ∧ rest.head? = some '-' then c :: ' ' :: splitHyphens rest
    else c :: splitHyphens rest

def commentText (t : String) : String :=
  "<!-- " ++ String.ofList (splitHyphens t.toList) ++ " -->"

end EventMarkup.Render
