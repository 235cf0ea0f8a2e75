import EventMarkup.Reaction
import EventMarkup.Style
import EventMarkup.Token

/-!
# Tables

A table is started in two steps: the first records its attributes, the second declares the columns
and writes the tag. Rows take two classes in turn. A cell is aligned like its column; the last
column declared serves all cells after it.
-/
namespace EventMarkup.Render

/-- The first step of a table: attributes wait for the rows. -/
def table (st : Style) (s : RenderState) (m : Mapping) : Reaction :=
  let discarded := match s.pendingTable with
    | some old => !old.isEmpty
    | none => false
  (Reaction.become { s with pendingTable := some (st.admitted .table m) }).noting
    (if discarded then [.tableDiscarded] else [])

/-- An attribute set with a text, unless the caller's attributes have the name. -/
def unlessGiven (given : Attributes) (name t : String) (a : Attributes) : Attributes :=
  if given.contains name then a else a.insert name t

/-- The attributes of a table: alignment, border and class unless they are given. -/
def tableAttributes (st : Style) (given : Attributes) (grid : Bool) : Attributes :=
  (unlessGiven given "class" st.tableClass
    (unlessGiven given "border" (if grid then "1" else "0")
      (unlessGiven given "align" "center" ∅))).merge given

/-- The second step of a table. -/
def tableRows (st : Style) (s : RenderState) (j : Option (List (Option String))) (grid : Bool) :
    Reaction :=
  .write { s.setJustification j with pendingTable := none }
    [st.startTag "table" (tableAttributes st (s.pendingTable.getD ∅) grid)]

/-- The end of the rows: the columns are forgotten and the classes start over. -/
def tableRowsEnd (s : RenderState) : Reaction :=
  .become { s.clearJustification with rowIsEven := true }

def rowAttributes (st : Style) (s : RenderState) (m : Mapping) : Attributes :=
  ((∅ : Attributes).insert "class" (if s.rowIsEven then st.oddClass else st.evenClass)).merge
    (st.admitted .row m)

def tableRow (st : Style) (s : RenderState) (m : Mapping) : Reaction :=
  (Reaction.write s [st.startTag "tr" (rowAttributes st s m)]).andThen
    { s with rowIsEven := !s.rowIsEven, cellIndex := 0 }

def tableRowEnd (st : Style) (s : RenderState) : Reaction :=
  (Reaction.write s [st.endTag "tr"]).andThen { s with cellIndex := 0 }

def cellTag : CellKind → String
  | .data => "td"
  | .header => "th"

/-- The alignment of the current cell as an attribute. -/
def cellAlignment (s : RenderState) : Attributes :=
  match s.currentJustification with
  | .ok (some j) => (∅ : Attributes).insert "align" (Token.alignment (some j))
  | _ => ∅

/-- A mapping with a width, if one is given. -/
def withWidth (m : Mapping) (width : Value) : Mapping :=
  if width = .absent then m else m.insert "width" width

def cellAttributes (st : Style) (s : RenderState) (m : Mapping) (width : Value) : Attributes :=
  (cellAlignment s).merge (st.admitted .cell (withWidth m width))

def cellEnd (st : Style) (s : RenderState) (k : CellKind) : Reaction :=
  (Reaction.write s [st.endTag (cellTag k)]).andThen
    (if s.hasJustification then { s with cellIndex := s.cellIndex + 1 } else s)

end EventMarkup.Render
