import EventMarkup.Proofs.FaultFree
import EventMarkup.Proofs.Lookup

/-!
# What a state knows of a table

Four fields of a state decide how the rows and cells of a table are written: the columns, whether
they count, the number of the cell and whose turn the classes of rows are. No other field has a say
in what becomes of them, and few events do (`TableState.after`).

* `Render.transitions_table`: what a run makes of these fields.
* `Render.get?_cellAttributes`: the alignment of a cell is that of its column (`columnAlignment`),
  unless the caller gives one.
* `Render.get?_rowAttributes`: the class of a row is the one whose turn it is, unless the caller
  gives one.
-/
namespace EventMarkup

/-- The part of a state that the rows and cells of a table are written by. -/
structure TableState where
  justification : Option Columns
  hasJustification : Bool
  cellIndex : Int
  rowIsEven : Bool
  deriving DecidableEq

/-- What a state knows of a table. -/
def RenderState.table (s : RenderState) : TableState :=
  ⟨s.justification, s.hasJustification, s.cellIndex, s.rowIsEven⟩

/-- Whether an event starts or ends a table, its rows, a row or a cell. -/
def Event.isTabular : Event → Bool
  | table _ | tableEnd | tableRows .. | tableRowsEnd => true
  | tableRow _ | tableRowEnd | cell .. | cellEnd _ => true
  | _ => false

def Event.startsRowOrCell : Event → Bool
  | tableRow _ | cell .. => true
  | _ => false

namespace TableState

/-- What becomes of it with an event. -/
def after (t : TableState) : Event → TableState
  | .tableRows j _ =>
    { t with justification := j.map fun entries => { entries }, hasJustification := true }
  | .tableRowsEnd =>
    { t with justification := none, hasJustification := false, rowIsEven := true }
  | .tableRow _ => { t with rowIsEven := !t.rowIsEven, cellIndex := 0 }
  | .tableRowEnd => { t with cellIndex := 0 }
  | .cellEnd _ => if t.hasJustification then { t with cellIndex := t.cellIndex + 1 } else t
  | _ => t

def afterAll (t : TableState) (es : List Event) : TableState := es.foldl after t

@[simp] theorem afterAll_nil (t : TableState) : t.afterAll [] = t := rfl

@[simp] theorem afterAll_cons (t : TableState) (e : Event) (es : List Event) :
    t.afterAll (e :: es) = (t.after e).afterAll es := rfl

@[simp] theorem afterAll_append (t : TableState) (xs ys : List Event) :
    t.afterAll (xs ++ ys) = (t.afterAll xs).afterAll ys := List.foldl_append

theorem afterAll_foreign (t : TableState) {es : List Event} (h : ∀ e ∈ es, e.isTabular = false) :
    t.afterAll es = t := by
  induction es with
  | nil => rfl
  | cons e es ih =>
    rw [List.forall_mem_cons] at h
    have hfirst : t.after e = t := by
      cases e <;> first | rfl | cases h.1
    rw [afterAll_cons, hfirst, ih h.2]

end TableState

/-! ## Runs -/

namespace Render

theorem transition_table (st : Style) (s : RenderState) (e : Event) :
    (transition st s e).table = s.table.after e := by
  simp only [RenderState.table, transition_eq]
  cases e with
  | cellEnd k =>
    simp only [TableState.after]
    split <;> rfl
  | _ => rfl

theorem transitions_table (st : Style) (s : RenderState) (es : List Event) :
    (transitions st s es).table = s.table.afterAll es := by
  induction es generalizing s with
  | nil => rfl
  | cons e es ih =>
    rw [TableState.afterAll_cons, ← transition_table st]
    exact ih (transition st s e)

theorem transitions_pendingTable {st : Style} {s : RenderState} {es : List Event}
    (hs : s.pendingTable = none) (h : ∀ m, .table m ∉ es) :
    (transitions st s es).pendingTable = none := by
  refine List.foldlRecOn es (transition st) (motive := (·.pendingTable = none)) hs
    fun s hs e he => ?_
  simp only [transition_eq]
  cases e with
  | table m => exact absurd he (h m)
  | tableRows => rfl
  | _ => exact hs

end Render

/-! ## Cells and rows -/

/-- The alignment that columns give a cell, counted from zero: that of its column, or of the last
column for all cells after it. Other words than the two sides mean the centre. Without columns there
is none, nor where the entry of a column is no word. -/
def columnAlignment (columns : Option (List (Option String))) (k : Nat) : Option String :=
  let entries := columns.getD []
  (entries[min k (entries.length - 1)]?).join.map fun w =>
    if w = "left" ∨ w = "right" then w else "center"

theorem Token.alignment_eq (w : String) :
    alignment (some w) = if w = "left" ∨ w = "right" then w else "center" := by
  by_cases hw : w = "center"
  · subst hw
    decide
  · simp [alignment, oneOf, alignments, hw]

namespace Render

variable (st : Style) {s : RenderState} (m : Mapping)

theorem get?_withWidth (width : Value) : (withWidth m width).get? "align" = m.get? "align" := by
  unfold withWidth
  split
  · rfl
  · rw [OrderedMap.get?_insert, if_neg (by decide)]

/-- The alignment of a cell is the one that the caller gives, else that of its column. -/
theorem get?_cellAttributes {columns : Option (List (Option String))} {k : Nat}
    (hcolumns : s.justification = columns.map fun entries => { entries })
    (hcount : s.hasJustification = true) (hk : s.cellIndex = k) (width : Value) :
    (cellAttributes st s m width).get? "align" =
      (st.given .cell m "align").or (columnAlignment columns k) := by
  have hentries : s.columns = columns.getD [] := by
    rw [RenderState.columns, hcount, hcolumns]
    cases columns <;> rfl
  have halign : (cellAlignment s).get? "align" = columnAlignment columns k := by
    rw [cellAlignment, RenderState.currentJustification_eq hk, hentries,
      RenderState.getElem?_or_getLast?, columnAlignment]
    cases ((columns.getD [])[min k ((columns.getD []).length - 1)]?).join with
    | none => rfl
    | some w => simp [OrderedMap.get?_insert, Token.alignment_eq]
  rw [cellAttributes, OrderedMap.get?_merge, Style.get?_admitted, halign, Style.given,
    get?_withWidth, Style.given]

theorem get?_cellAttributes_uncounted (hcount : s.hasJustification = false) (width : Value) :
    (cellAttributes st s m width).get? "align" = st.given .cell m "align" := by
  have hnone : cellAlignment s = ∅ := by
    rw [cellAlignment, RenderState.currentJustification, hcount]
  rw [cellAttributes, OrderedMap.get?_merge, Style.get?_admitted, hnone, Style.given,
    get?_withWidth, OrderedMap.get?_empty, Option.or_none, Style.given]

theorem get?_rowAttributes :
    (rowAttributes st s m).get? "class" = some
      ((st.given .row m "class").getD (if s.rowIsEven then st.oddClass else st.evenClass)) := by
  rw [rowAttributes, OrderedMap.get?_merge, Style.get?_admitted, OrderedMap.get?_insert, if_pos rfl]
  cases st.given .row m "class" <;> rfl

/-- Cells and rows are written by what a state knows of their table. -/
theorem pieces_of_table {s' : RenderState} (h : s.table = s'.table) {e : Event}
    (he : e.startsRowOrCell = true) :
    (respond st s e).pieces = (respond st s' e).pieces := by
  have hcolumns : s.justification = s'.justification := congrArg TableState.justification h
  have hcount : s.hasJustification = s'.hasJustification := congrArg TableState.hasJustification h
  have hcell : s.cellIndex = s'.cellIndex := congrArg TableState.cellIndex h
  have hturn : s.rowIsEven = s'.rowIsEven := congrArg TableState.rowIsEven h
  cases e with
  | tableRow m =>
    simp only [respond, tableRow, rowAttributes, hturn]
    rfl
  | cell c m w =>
    simp only [respond, cellAttributes, cellAlignment, RenderState.currentJustification, hcolumns,
      hcount, hcell]
    rfl
  | _ => cases he

end Render

end EventMarkup
