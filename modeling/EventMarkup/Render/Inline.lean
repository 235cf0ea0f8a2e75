import EventMarkup.Link
import EventMarkup.Reaction
import EventMarkup.Style

/-!
# Text, links and anchors

Text is escaped once. In head mode text goes to the head buffer, unescaped, and line breaks and
spaces go there as characters. A text event may ask for decoration; the tags are nested in a fixed
order with subscript or superscript innermost, and verbatim text has none.
-/
namespace EventMarkup.Render

/-- The state with text added to the head buffer. -/
def collect (s : RenderState) (t : String) : RenderState :=
  { s with headBuffer := s.headBuffer ++ [t] }

/-- The names of the tags around decorated text, outermost first. -/
def decorations (a : Attributes) : List String :=
  (if a.has "decoration" "underline" then ["u"] else []) ++
  (if a.has "decoration" "line-through" then ["s"] else []) ++
  if a.has "valign" "sub" then ["sub"] else if a.has "valign" "sup" then ["sup"] else []

def textTags (s : RenderState) (m : Mapping) : List String :=
  if s.verbatimMode then [] else decorations (.ofMapping m)

/-- The pieces of text within tags. -/
def tagged (st : Style) (tags : List String) (t : String) : List String :=
  tags.map (fun n => st.startTag n ∅) ++ [Text.escape t] ++ tags.reverse.map st.endTag

def text (st : Style) (s : RenderState) (t : String) (m : Mapping) : Reaction :=
  if s.headMode then .become (collect s t) else .write s (tagged st (textTags s m) t)

def lineBreak (st : Style) (s : RenderState) (m : Mapping) : Reaction :=
  if s.headMode then .become (collect s st.lineEnding.text)
  else .write s [st.singleTag "br" (st.admitted .lineBreak m)]

def nonBreakingSpace (s : RenderState) : Reaction :=
  if s.headMode then .become (collect s " ") else .write s ["&#160;"]

/-! ## Links -/

/-- The attributes that a link computes from its destination. -/
def linkDestination (st : Style) (href : String) : Attributes :=
  (if Link.isExternal href then (∅ : Attributes).insert "class" st.externalLinkClass
    else ∅).insert "href" (Link.destination href)

/-- The target of a link: the one given, else the one among its attributes. -/
def linkTarget (admitted : Attributes) (target : Value) : Option String :=
  match target with
  | .absent => admitted.get? "target"
  | v => some v.toText

/-- The attributes of a link: the computed ones first. -/
def linkAttributes (st : Style) (href : String) (m : Mapping) (target : Value) : Attributes :=
  let admitted := st.admitted .link m
  let computed := match linkTarget admitted target with
    | none => linkDestination st href
    | some t => (linkDestination st href).insert "target" t
  computed.merge (admitted.eraseAll ["href", "target"])

/-- The attributes of an anchor: its identifier as a name, unless that is empty. -/
def anchorAttributes (st : Style) (name : Option String) (m : Mapping) : Attributes :=
  let e := (name.map Text.toIdentifier).getD ""
  (if e = "" then ∅ else (∅ : Attributes).insert "name" e).merge (st.admitted .basic m)

end EventMarkup.Render
