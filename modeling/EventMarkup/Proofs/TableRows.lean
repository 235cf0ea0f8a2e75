import EventMarkup.Proofs.Accepted
import EventMarkup.Proofs.TableState

/-!
# Rows and cells of a table

A table is sent as its start, its columns, its rows with their cells one after the other, and its
ends. What a cell holds may be any events that belong to no table, in order or not.

Between two rows a state knows how many rows there were as far as it matters, whether the number is
even; in a row it knows how many cells have ended (`Table.betweenRows`, `Table.inRow`). So each cell
is aligned like its column, rows take their classes in turn, and in the end nothing is left of the
table (`table_rules_kept`).
-/
namespace EventMarkup

/-- A cell with the events in it, which belong to no table. -/
structure Table.Cell where
  kind : CellKind
  attributes : Mapping := ∅
  width : Value := .absent
  content : List Event
  content_foreign : ∀ e ∈ content, e.isTabular = false := by decide

/-- A row with its cells. -/
structure Table.Row where
  attributes : Mapping := ∅
  cells : List Table.Cell

/-- A table with its columns and its rows. -/
structure Table where
  attributes : Mapping := ∅
  columns : Option (List (Option String))
  grid : Bool
  rows : List Table.Row

namespace Table

def Cell.events (c : Cell) : List Event :=
  .cell c.kind c.attributes c.width :: (c.content ++ [.cellEnd c.kind])

def Row.events (r : Row) : List Event :=
  .tableRow r.attributes :: (r.cells.flatMap Cell.events ++ [.tableRowEnd])

/-- The events of a table before its rows. -/
def opening (t : Table) : List Event := [.table t.attributes, .tableRows t.columns t.grid]

def events (t : Table) : List Event :=
  t.opening ++ (t.rows.flatMap Row.events ++ [.tableRowsEnd, .tableEnd])

/-- The events of a table up to a row, given the rows above it. -/
def toRow (t : Table) (above : List Row) : List Event := t.opening ++ above.flatMap Row.events

/-- The events of a table up to a cell of a row, given the cells before it. -/
def toCell (t : Table) (above : List Row) (r : Row) (left : List Cell) : List Event :=
  t.toRow above ++ .tableRow r.attributes :: left.flatMap Cell.events

/-! ## From cell to cell and from row to row -/

section
variable (columns : Option (List (Option String)))

/-- What a state knows of a table before its row number `i`. -/
def betweenRows (i : Nat) (cell : Int) : TableState :=
  ⟨columns.map fun entries => { entries }, true, cell, decide (i % 2 = 0)⟩

/-- What a state knows of a table in its row number `i` before the cell number `k`. -/
def inRow (i k : Nat) : TableState :=
  ⟨columns.map fun entries => { entries }, true, k, decide ((i + 1) % 2 = 0)⟩

theorem after_cell (i k : Nat) (c : Cell) :
    (inRow columns i k).afterAll c.events = inRow columns i (k + 1) := by
  simp [Cell.events, TableState.after, TableState.afterAll_foreign _ c.content_foreign, inRow]

theorem after_cells (i k : Nat) (cells : List Cell) :
    (inRow columns i k).afterAll (cells.flatMap Cell.events) =
      inRow columns i (k + cells.length) := by
  induction cells generalizing k with
  | nil => rfl
  | cons c cells ih =>
    rw [List.flatMap_cons, TableState.afterAll_append, after_cell, ih, List.length_cons,
      Nat.add_right_comm, Nat.add_assoc]

theorem after_rowStart (i : Nat) (cell : Int) (m : Mapping) :
    (betweenRows columns i cell).after (.tableRow m) = inRow columns i 0 := by
  have hturn : (!decide (i % 2 = 0)) = decide ((i + 1) % 2 = 0) := by
    rw [← decide_not, decide_eq_decide]
    omega
  rw [inRow, ← hturn]
  rfl

theorem after_row (i : Nat) (cell : Int) (r : Row) :
    (betweenRows columns i cell).afterAll r.events = betweenRows columns (i + 1) 0 := by
  rw [Row.events, TableState.afterAll_cons, after_rowStart, TableState.afterAll_append,
    after_cells]
  rfl

theorem after_rows (i : Nat) (cell : Int) (rows : List Row) :
    ∃ cell', (betweenRows columns i cell).afterAll (rows.flatMap Row.events) =
      betweenRows columns (i + rows.length) cell' := by
  induction rows generalizing i cell with
  | nil => exact ⟨cell, rfl⟩
  | cons r rows ih =>
    obtain ⟨cell', hrest⟩ := ih (i + 1) 0
    refine ⟨cell', ?_⟩
    rw [List.flatMap_cons, TableState.afterAll_append, after_row, hrest, List.length_cons,
      Nat.add_right_comm, Nat.add_assoc]

end

/-! ## Where rows and cells stand -/

section
variable (st : Style) {s : RenderState} (heven : s.rowIsEven = true) (t : Table)
include heven

/-- Before a row, the rows above it have been counted. -/
theorem state_toRow (above : List Row) : ∃ cell,
    (Render.transitions st s (t.toRow above)).table =
      betweenRows t.columns above.length cell := by
  have hopening : s.table.afterAll t.opening = betweenRows t.columns 0 s.cellIndex := by
    simp [opening, TableState.after, RenderState.table, betweenRows, heven]
  obtain ⟨cell, habove⟩ := after_rows t.columns 0 s.cellIndex above
  refine ⟨cell, ?_⟩
  rw [Render.transitions_table, toRow, TableState.afterAll_append, hopening, habove, Nat.zero_add]

/-- Before a cell, the cells before it in its row have been counted. -/
theorem state_toCell (above : List Row) (r : Row) (left : List Cell) :
    (Render.transitions st s (t.toCell above r left)).table =
      inRow t.columns above.length left.length := by
  obtain ⟨cell, hrow⟩ := state_toRow st heven t above
  rw [Render.transitions_table] at hrow ⊢
  rw [toCell, TableState.afterAll_append, hrow, TableState.afterAll_cons, after_rowStart,
    after_cells, Nat.zero_add]

theorem state_end :
    ∃ cell, (Render.transitions st s t.events).table = ⟨none, false, cell, true⟩ := by
  obtain ⟨cell, hrows⟩ := state_toRow st heven t t.rows
  refine ⟨cell, ?_⟩
  rw [Render.transitions_table] at hrows ⊢
  rw [events, ← List.append_assoc, TableState.afterAll_append]
  have hsame : t.opening ++ t.rows.flatMap Row.events = t.toRow t.rows := rfl
  rw [hsame, hrows]
  rfl

end

theorem Row.not_table_mem (r : Row) (m : Mapping) : .table m ∉ r.events := by
  have hcell (c : Cell) : .table m ∉ c.events := by
    have hcontent : .table m ∉ c.content := fun h => by cases c.content_foreign _ h
    simp [Cell.events, hcontent]
  simp [Row.events, hcell]

theorem pendingTable_end (st : Style) (s : RenderState) (t : Table) :
    (Render.transitions st s t.events).pendingTable = none := by
  have hrows (m : Mapping) : .table m ∉ t.rows.flatMap Row.events := fun h => by
    obtain ⟨r, -, hr⟩ := List.mem_flatMap.mp h
    exact r.not_table_mem m hr
  rw [events, Render.transitions_append]
  exact Render.transitions_pendingTable rfl fun m => by simp [hrows]

/-- Each cell of a table finds its column: its row counts cells from zero upwards. -/
theorem columnsFound (st : Style) (s : RenderState) (t : Table) :
    Render.ColumnsFound st s t.events := by
  refine ⟨rfl, rfl, ?_⟩
  cases t.rows with
  | nil => exact ⟨rfl, rfl, trivial⟩
  | cons r rows => exact ⟨rfl, Render.columnsFound_of_nonneg (Int.le_refl 0) _⟩

theorem events_eq_toRow {t : Table} {above below : List Row} {r : Row}
    (h : t.rows = above ++ r :: below) :
    ∃ post, t.events = t.toRow above ++ .tableRow r.attributes :: post :=
  ⟨r.cells.flatMap Cell.events ++
      .tableRowEnd :: (below.flatMap Row.events ++ [.tableRowsEnd, .tableEnd]),
    by simp [events, toRow, Row.events, h]⟩

theorem events_eq_toCell {t : Table} {above below : List Row} {r : Row} {left right : List Cell}
    {c : Cell} (h : t.rows = above ++ r :: below) (hr : r.cells = left ++ c :: right) :
    ∃ post, t.events =
      t.toCell above r left ++ .cell c.kind c.attributes c.width :: post :=
  ⟨c.content ++ .cellEnd c.kind :: (right.flatMap Cell.events ++
      .tableRowEnd :: (below.flatMap Row.events ++ [.tableRowsEnd, .tableEnd])),
    by simp [events, toCell, toRow, Row.events, Cell.events, h, hr]⟩

end Table

/-- **The rules of a table.** Send a table to a sink in any state in which the turn of the classes
is at the first. On an open buffer all goes well. Wherever all goes well, each row is written with
the class that the caller gives it, if the style lets that through, or else with the one whose turn
it is, and each cell with the alignment that the caller gives it, or else with that of its column.
Afterwards the turn is at the first class again, no columns are declared and no attributes wait. -/
theorem table_rules_kept {k : Sink} (hv : k.vocabulary = .everything)
    (heven : k.state.rowIsEven = true) (t : Table) :
    (k.destination.OpenBuffer → ∀ x ∈ steps Sink.event k t.events, x.outcome.result = .ok ()) ∧
    ((∀ x ∈ steps Sink.event k t.events, x.outcome.result = .ok ()) →
      (∀ above r below, t.rows = above ++ r :: below →
        (∃ a, (final Sink.event k (t.toRow above)).Prints (.tableRow r.attributes)
            [k.style.startTag "tr" a] ∧
          a.get? "class" = some ((k.style.given .row r.attributes "class").getD
            (if above.length % 2 = 0 then k.style.oddClass else k.style.evenClass))) ∧
        ∀ left c right, r.cells = left ++ c :: right →
          ∃ a, (final Sink.event k (t.toCell above r left)).Prints
              (.cell c.kind c.attributes c.width) [k.style.startTag (Render.cellTag c.kind) a] ∧
            a.get? "align" = (k.style.given .cell c.attributes "align").or
              (columnAlignment t.columns left.length)) ∧
      let s := (final Sink.event k t.events).state
      s.rowIsEven = true ∧ s.hasJustification = false ∧ s.justification = none ∧
        s.pendingTable = none) := by
  refine ⟨fun hb => ((⟨hv, hb⟩ : k.Ready).run (t.columnsFound k.style k.state)).1, fun hok => ?_⟩
  refine ⟨fun above r below hrows => ⟨?_, fun left c right hcells => ?_⟩, ?_⟩
  · obtain ⟨post, hes⟩ := Table.events_eq_toRow hrows
    rw [hes] at hok
    obtain ⟨cell, hstate⟩ := Table.state_toRow k.style heven t above
    have hturn : (Render.transitions k.style k.state (t.toRow above)).rowIsEven =
        decide (above.length % 2 = 0) := congrArg TableState.rowIsEven hstate
    refine ⟨_, (Sink.writes_within hv hok).prints, ?_⟩
    rw [Render.get?_rowAttributes, hturn]
    simp only [decide_eq_true_eq]
  · obtain ⟨post, hes⟩ := Table.events_eq_toCell hrows hcells
    rw [hes] at hok
    have hstate := Table.state_toCell k.style heven t above r left
    exact ⟨_, (Sink.writes_within hv hok).prints,
      Render.get?_cellAttributes k.style c.attributes
        (congrArg TableState.justification hstate) (congrArg TableState.hasJustification hstate)
        (congrArg TableState.cellIndex hstate) c.width⟩
  · obtain ⟨cell, hstate⟩ := Table.state_end k.style heven t
    have hpending := Table.pendingTable_end k.style k.state t
    simp only [Sink.final_state hok]
    exact ⟨congrArg TableState.rowIsEven hstate, congrArg TableState.hasJustification hstate,
      congrArg TableState.justification hstate, hpending⟩

/-- A table of two columns with a row of three cells and a row with a class of its own. In the first
cell a figure and a head are left open. -/
def alignedTable : Table where
  columns := some [some "right", some "middle"]
  grid := false
  rows :=
    [{ cells :=
        [{ kind := .header, content := [.figure none, .head, .text "x" ∅] },
          { kind := .data, attributes := .ofList [("align", .text "left")], content := [] },
          { kind := .data, content := [] }] },
      { attributes := .ofList [("class", .text "c")], cells := [] }]

/-- The third cell is aligned like the second column, the second as it asks itself. -/
theorem alignedTable_kept : ∃ above r c₀ c₁ c₂ last,
    alignedTable.rows = above ++ [r, last] ∧ r.cells = [c₀, c₁, c₂] ∧
      (∃ a, (final Sink.event (.inMemory .usual) (alignedTable.toCell above r [c₀])).Prints
          (.cell .data c₁.attributes .absent) [Options.usual.style.startTag "td" a] ∧
        a.get? "align" = some "left") ∧
      (∃ a, (final Sink.event (.inMemory .usual) (alignedTable.toCell above r [c₀, c₁])).Prints
          (.cell .data ∅ .absent) [Options.usual.style.startTag "td" a] ∧
        a.get? "align" = some "center") ∧
      ∃ a, (final Sink.event (.inMemory .usual) (alignedTable.toRow (above ++ [r]))).Prints
          (.tableRow last.attributes) [Options.usual.style.startTag "tr" a] ∧
        a.get? "class" = some "c" := by
  obtain ⟨hall, hrules⟩ := table_rules_kept (k := .inMemory .usual) rfl rfl alignedTable
  obtain ⟨hparts, -⟩ := hrules (hall (Sink.inMemory_ready .usual).buffer)
  refine ⟨[], _, _, _, _, _, rfl, rfl, ?_, ?_, ?_⟩
  · exact (hparts [] _ _ rfl).2 [_] _ [_] rfl
  · exact (hparts [] _ _ rfl).2 [_, _] _ [] rfl
  · exact (hparts [_] _ [] rfl).1

end EventMarkup
