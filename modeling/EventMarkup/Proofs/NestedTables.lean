import EventMarkup.Proofs.Accepted
import EventMarkup.Proofs.Brackets
import EventMarkup.Proofs.TableState

/-!
# Tables in tables

A guard lets a table stand in a cell of another one, to any depth. What a sink knows of a table is
kept once, not for each table that is open: the columns and the turn of the classes end with the
rows of any table, and a row of any table counts cells from zero.

* `Document.afterAll_table`: what a complete table leaves of this.
* `nestedTable_kept_iff`: all of it is as before just if no rows are declared in the table, unless
  there was nothing to lose. Then later cells and rows are written as without the table. Otherwise
  the cells after it lose their columns and the next row takes the first class.
-/
namespace EventMarkup

open Render

/-! ## A complete table -/

section
variable {o : Option Event} {inner : List Event}

theorem Document.declared_of_row (hd : Document o inner) (ho : inside o .tableRows = false)
    (h : opened inner .tableRow = true) : opened inner .tableRows = true := by
  obtain ⟨e, he, hrow⟩ := List.any_eq_true.mp h
  have hrow : e.starts? = some .tableRow := of_decide_eq_true hrow
  rcases hd.placed he with ⟨s, -, hp⟩ | ⟨-, q, hq, hfit⟩
  · rw [hp.bounds.2.1] at hrow
    cases hrow
  · have hin := row_in_rows q e hrow hfit
    rcases hq with rfl | ⟨s, hs, rfl⟩
    · rw [ho] at hin
      cases hin
    · exact List.any_eq_true.mpr ⟨s, hs, hin⟩

/-- Cells are counted from zero again after a row, and not counted outside of rows. -/
theorem Document.cellIndex_eq (hd : Document o inner) (ho : inside o .tableRow = false)
    (t : TableState) :
    (t.afterAll inner).cellIndex = if opened inner .tableRow then 0 else t.cellIndex := by
  refine hd.field_eq ho (fun e hl t => ?_) (fun q s f hp hs hq hfit => ?_) (fun t e he => ?_) t
  · cases hl <;> rfl
  · cases hp with
    | tableRow => exact absurd rfl hs
    | cell x m w =>
      rw [fits, hq] at hfit
      cases hfit
    | _ => exact ⟨fun _ => rfl, fun _ => rfl⟩
  · cases e <;> first | rfl | cases he

/-- What a state knows of a table apart from the number of the cell. -/
def TableState.columnsAndTurn (t : TableState) : Option Columns × Bool × Bool :=
  (t.justification, t.hasJustification, t.rowIsEven)

/-- The columns and the turn end with the rows of a table, and nothing outside sets them. -/
theorem Document.columnsAndTurn_eq (hd : Document o inner) (ho : inside o .tableRows = false)
    (t : TableState) :
    (t.afterAll inner).columnsAndTurn =
      if opened inner .tableRows then (none, false, true) else t.columnsAndTurn := by
  refine hd.field_eq ho (fun e hl t => ?_) (fun q s f hp hs hq hfit => ?_) (fun t e he => ?_) t
  · cases hl <;> rfl
  · cases hp with
    | tableRows => exact absurd rfl hs
    | tableRow m =>
      rw [fits, hq] at hfit
      cases hfit
    | cell x m w =>
      refine ⟨fun _ => rfl, fun t => ?_⟩
      simp only [TableState.after]
      split <;> rfl
    | _ => exact ⟨fun _ => rfl, fun _ => rfl⟩
  · cases e <;> first | rfl | cases he

/-- What is left of what a state knows of a table after a table that holds events. -/
def TableState.afterTable (t : TableState) (inner : List Event) : TableState :=
  if opened inner .tableRows then
    ⟨none, false, if opened inner .tableRow then 0 else t.cellIndex, true⟩
  else t

theorem Document.afterAll_table {m : Mapping} (hd : Document (some (.table m)) inner)
    (t : TableState) :
    t.afterAll (.table m :: inner ++ [.tableEnd]) = t.afterTable inner := by
  have hcell := hd.cellIndex_eq rfl t
  have hothers := hd.columnsAndTurn_eq rfl t
  have hwhole : t.afterAll (.table m :: inner ++ [.tableEnd]) = t.afterAll inner := by
    rw [List.cons_append, TableState.afterAll_cons, TableState.afterAll_append]
    rfl
  rw [hwhole, TableState.afterTable]
  generalize t.afterAll inner = t' at hcell hothers ⊢
  obtain ⟨j, c, k, r⟩ := t'
  cases hrows : opened inner .tableRows with
  | true =>
    rw [hrows] at hothers
    cases hothers
    exact congrArg (TableState.mk none false · true) hcell
  | false =>
    have hrow : opened inner .tableRow = false := by
      by_contra h
      rw [hd.declared_of_row rfl (by simpa using h)] at hrows
      cases hrows
    rw [hrows] at hothers
    rw [hrow] at hcell
    cases hothers
    cases hcell
    rfl

end

/-! ## Afterwards -/

namespace TableState

theorem afterAll_uncounted {t : TableState} {es : List Event} (h : t.hasJustification = false)
    (hes : ∀ j grid, .tableRows j grid ∉ es) : (t.afterAll es).hasJustification = false := by
  refine List.foldlRecOn es after (motive := (·.hasJustification = false)) h fun t ht e he => ?_
  cases e with
  | tableRows j grid => exact absurd he (hes j grid)
  | cellEnd x => simp [after, ht]
  | tableRowsEnd => rfl
  | _ => exact ht

theorem afterAll_firstTurn {t : TableState} {es : List Event} (h : t.rowIsEven = true)
    (hes : ∀ m, .tableRow m ∉ es) : (t.afterAll es).rowIsEven = true := by
  refine List.foldlRecOn es after (motive := (·.rowIsEven = true)) h fun t ht e he => ?_
  cases e with
  | tableRow m => exact absurd he (hes m)
  | cellEnd x =>
    simp only [after]
    split <;> exact ht
  | tableRowsEnd => rfl
  | _ => exact ht

/-- A complete table leaves all as it was if no rows are declared in it, or there is nothing to
lose. -/
theorem afterTable_eq_iff (t : TableState) (inner : List Event) :
    t.afterTable inner = t ↔ opened inner .tableRows = false ∨
      t.columnsAndTurn = (none, false, true) ∧
        (opened inner .tableRow = true → t.cellIndex = 0) := by
  obtain ⟨j, c, k, r⟩ := t
  cases hrows : opened inner .tableRows with
  | false => simp [afterTable, hrows]
  | true =>
    cases hrow : opened inner .tableRow with
    | false => simp [afterTable, hrows, hrow, columnsAndTurn, eq_comm]
    | true =>
      simp only [afterTable, hrows, hrow, columnsAndTurn]
      grind

end TableState

/-! ## Runs -/

section
variable {k : Sink} {pre inner mid : List Event} {m : Mapping}

theorem transitions_afterTable (hd : Document (some (.table m)) inner) :
    (transitions k.style k.state (pre ++ (.table m :: inner ++ [.tableEnd]) ++ mid)).table =
      ((transitions k.style k.state pre).table.afterTable inner).afterAll mid := by
  rw [transitions_table, transitions_table, TableState.afterAll_append,
    TableState.afterAll_append, hd.afterAll_table]

end

/-- **Tables in tables.** Under a guard, send a sink a table among other events, all of which go
well. The table may stand anywhere, so in a cell of another one. The columns, whether they count,
the number of the cell and the turn of the classes are as before the table just if no rows are
declared in it, or else if no columns were left, the turn was at the first class and, with rows in
the table, no cell had been counted. If they are as before, the cells and rows after it are written
as without the table. If rows are declared in it, a cell after it has the alignment that the caller
gives it and no other, up to where columns are declared again, and the next row takes the first
class unless the caller gives it one. -/
theorem nestedTable_kept_iff {k : Sink} (hv : k.vocabulary = .everything)
    {pre inner post : List Event} {m : Mapping} (hd : Document (some (.table m)) inner)
    (hok : ((Session.start k 1).events
      (pre ++ (.table m :: inner ++ [.tableEnd]) ++ post)).result = .ok ()) :
    let sink es := ((Session.start k 1).events es).after.sink
    let before := (sink pre).state.table
    let whole := pre ++ (.table m :: inner ++ [.tableEnd])
    ((sink whole).state.table = before ↔ opened inner .tableRows = false ∨
      before.columnsAndTurn = (none, false, true) ∧
        (opened inner .tableRow = true → before.cellIndex = 0)) ∧
    ((sink whole).state.table = before →
      ∀ mid e rest, post = mid ++ e :: rest → e.startsRowOrCell = true →
        (sink (whole ++ mid)).Prints e
          (respond k.style (transitions k.style k.state (pre ++ mid)) e).pieces) ∧
    (opened inner .tableRows = true → ∀ mid rest,
      (∀ c m' w, post = mid ++ .cell c m' w :: rest → (∀ j grid, .tableRows j grid ∉ mid) →
        ∃ a, (sink (whole ++ mid)).Prints (.cell c m' w) [k.style.startTag (cellTag c) a] ∧
          a.get? "align" = k.style.given .cell m' "align") ∧
      ∀ m', post = mid ++ .tableRow m' :: rest → (∀ m'', .tableRow m'' ∉ mid) →
        ∃ a, (sink (whole ++ mid)).Prints (.tableRow m') [k.style.startTag "tr" a] ∧
          a.get? "class" = some ((k.style.given .row m' "class").getD k.style.oddClass)) := by
  intro sink before whole
  have hwhole : ((Session.start k 1).events whole).result = .ok () := Session.events_append_ok hok
  have hbefore : before = (transitions k.style k.state pre).table :=
    congrArg RenderState.table (Session.state_within hv hwhole)
  have hafter : (sink whole).state.table = before.afterTable inner := by
    rw [hbefore, ← TableState.afterAll_nil (TableState.afterTable _ _),
      ← transitions_afterTable hd, List.append_nil]
    exact congrArg RenderState.table (Session.state_within hv hok)
  -- what an event after the table and some others writes, and what the state knows there
  have hlater {mid rest : List Event} {e : Event} (hpost : post = mid ++ e :: rest) :
      (sink (whole ++ mid)).Prints e
        (respond k.style (transitions k.style k.state (whole ++ mid)) e).pieces := by
    rw [hpost, ← List.append_assoc] at hok
    exact (Session.writes_within hv hok).prints
  have hknown (mid : List Event) : (transitions k.style k.state (whole ++ mid)).table =
      (before.afterTable inner).afterAll mid := by
    rw [hbefore]
    exact transitions_afterTable hd
  refine ⟨by rw [hafter]; exact before.afterTable_eq_iff inner, fun hsame mid e rest hpost he => ?_,
    fun hrows mid rest => ⟨fun c m' w hpost hmid => ⟨_, hlater hpost, ?_⟩,
      fun m' hpost hmid => ⟨_, hlater hpost, ?_⟩⟩⟩
  · have hout : (transitions k.style k.state (whole ++ mid)).table =
        (transitions k.style k.state (pre ++ mid)).table := by
      rw [hknown, ← hafter, hsame, hbefore, transitions_table, transitions_table,
        TableState.afterAll_append]
    rw [← pieces_of_table k.style hout he]
    exact hlater hpost
  · have hcleared : (before.afterTable inner).hasJustification = false := by
      rw [TableState.afterTable, hrows]
      rfl
    refine get?_cellAttributes_uncounted k.style m' ?_ w
    have := TableState.afterAll_uncounted hcleared hmid
    rwa [← hknown] at this
  · have hfirst : (before.afterTable inner).rowIsEven = true := by
      rw [TableState.afterTable, hrows]
      rfl
    have hturn : (transitions k.style k.state (whole ++ mid)).rowIsEven = true := by
      have := TableState.afterAll_firstTurn hfirst hmid
      rwa [← hknown] at this
    rw [get?_rowAttributes, hturn]
    rfl

/-- A table up to its first cell, whose only column is aligned to the right. -/
def rightColumn : List Event :=
  [.table ∅, .tableRows (some [some "right"]) true, .tableRow ∅, .cell .data ∅ .absent]

def declaredTable : List Event := [.table ∅, .tableRows none true, .tableRowsEnd, .tableEnd]

/-- The second cell of the row is not aligned if there is a table in the first. -/
theorem secondCell_unaligned : ∃ a,
    ((Session.start (.inMemory .usual) 1).events
      (rightColumn ++ declaredTable ++ [.cellEnd .data])).after.sink.Prints
        (.cell .data ∅ .absent) [Options.usual.style.startTag "td" a] ∧
      a.get? "align" = none := by
  have hd : Document (some (.table ∅)) [.tableRows none true, .tableRowsEnd] :=
    .construct (.tableRows none true) rfl .nil .nil
  have hok : ((Session.start (.inMemory .usual) 1).events
      (rightColumn ++ (.table ∅ :: [.tableRows none true, .tableRowsEnd] ++ [.tableEnd]) ++
        [.cellEnd .data, .cell .data ∅ .absent])).result = .ok () := rfl
  obtain ⟨-, -, hlost⟩ := nestedTable_kept_iff rfl hd hok
  exact (hlost rfl [.cellEnd .data] []).1 .data ∅ .absent rfl (by simp)

/-- Without the table it is: in the cell, the table takes the columns and the turn along. -/
theorem declaredTable_disturbs :
    let run es := ((Session.start (.inMemory .usual) 1).events es)
    let rest : List Event := [.cellEnd .data, .cell .data ∅ .absent]
    let opening := "<table align=\"center\" border=\"1\" class=\"bodyTable\">"
    (run (rightColumn ++ declaredTable ++ rest)).result = .ok () ∧
      (run rightColumn).after.sink.state.table =
        ⟨some { entries := [some "right"] }, true, 0, false⟩ ∧
      (run (rightColumn ++ declaredTable)).after.sink.state.table = ⟨none, false, 0, true⟩ ∧
      (run (rightColumn ++ declaredTable ++ rest)).after.sink.value = .ok (opening ++
        "<tr class=\"a\"><td align=\"right\">" ++ opening ++ "</table></td><td>") ∧
      (run (rightColumn ++ rest)).after.sink.value = .ok (opening ++
        "<tr class=\"a\"><td align=\"right\"></td><td align=\"right\">") := by
  exact ⟨rfl, rfl, rfl, by decide +kernel, by decide +kernel⟩

end EventMarkup
