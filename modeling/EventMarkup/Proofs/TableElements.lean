import EventMarkup.Proofs.Accepted
import EventMarkup.Proofs.TableTags

/-!
# Tables and table elements

The start of a table writes nothing, the start of its rows writes the tag, the end of the table ends
it. A guard does not ask whether rows have started in a table that ends, or how often, and it lets
captions and text come before them. So not all that it accepts is written as one element for each
table.

* `Document.declare_eq`: how often rows start directly in a table is told by what it holds.
* `Document.split_at_rows`: a table in which rows start, taken apart where they first do.
* `tableElements_iff`: the tables of a run have their rows started once and are written as one
  element each just if their rows start once and nothing is written before they do.
-/
namespace EventMarkup

open Render

/-! ## Tables in a run -/

/-- How often rows start directly in a table that holds events. -/
def rowsWithin (inner : List Event) : Nat := (inner.foldl declare [0]).headD 0

/-- Among events there is a table, after others, that holds events. -/
def HasTable (es pre : List Event) (m : Mapping) (inner : List Event) : Prop :=
  (∃ post, es = pre ++ (.table m :: inner ++ [.tableEnd]) ++ post) ∧
    Document (some (.table m)) inner

theorem HasTable.of_infix {es fs pre inner : List Event} {m : Mapping}
    (h : HasTable fs pre m inner) (hi : fs <:+: es) : ∃ pre', HasTable es pre' m inner := by
  obtain ⟨⟨post, rfl⟩, hd⟩ := h
  obtain ⟨xs, ys, rfl⟩ := hi
  exact ⟨xs ++ pre, ⟨post ++ ys, by simp⟩, hd⟩

/-- Rows start once directly in each table among events. -/
def RowsOnceEach (es : List Event) : Prop :=
  ∀ pre m inner, HasTable es pre m inner → rowsWithin inner = 1

theorem RowsOnceEach.of_infix {es fs : List Event} (h : RowsOnceEach es) (hi : fs <:+: es) :
    RowsOnceEach fs := by
  intro pre m inner ht
  obtain ⟨pre', ht'⟩ := ht.of_infix hi
  exact h pre' m inner ht'

/-! ## Counting the starts of rows -/

section
variable {o : Option Event} {es : List Event}

/-- A whole construct counts only if it is the rows of a table. -/
theorem declare_construct {s f : Event} {inner : List Event} (hp : Pair s f)
    (hout : inside (some s) .table = false → ∀ rows, inner.foldl declare rows = rows)
    (hin : ∃ n, ∀ r rows, inner.foldl declare (r :: rows) = (r + n) :: rows) (rows : List Nat) :
    declare (inner.foldl declare (declare rows s)) f =
      if s.starts? = some .tableRows then (rows.headD 0 + 1) :: rows.tail else rows := by
  cases hp with
  | table m =>
    obtain ⟨n, hn⟩ := hin
    simp [declare, hn, Event.starts?]
  | _ => simp [declare, hout rfl, Event.starts?]

/-- A document in a table adds to its count, one in another place changes nothing. -/
theorem Document.declare_counts (hd : Document o es) :
    (inside o .table = false → ∀ rows, es.foldl declare rows = rows) ∧
      ∃ n, ∀ r rows, es.foldl declare (r :: rows) = (r + n) :: rows := by
  induction hd with
  | nil => exact ⟨fun _ _ => rfl, 0, fun _ _ => rfl⟩
  | @leaf o e rest hl _ _ ih =>
    have hsame (rows : List Nat) : declare rows e = rows := by cases hl <;> rfl
    simp only [List.foldl_cons, hsame]
    exact ih
  | @construct o s f inner rest hp hf _ _ ihi ihr =>
    obtain ⟨hout, n, hin⟩ := ihr
    have hwhole := declare_construct hp ihi.1 ihi.2
    simp only [List.cons_append, List.foldl_cons, List.foldl_append, hwhole]
    by_cases hr : s.starts? = some .tableRows
    · simp only [hr, if_true]
      refine ⟨fun ho => ?_, 1 + n, fun r rows => ?_⟩
      · rw [rows_in_table o s hr hf] at ho
        cases ho
      · rw [hin, List.headD_cons, List.tail_cons, Nat.add_assoc]
    · simp only [hr, if_false]
      exact ⟨hout, n, hin⟩

theorem Document.declare_eq (hd : Document o es) (r : Nat) (rows : List Nat) :
    es.foldl declare (r :: rows) = (r + rowsWithin es) :: rows := by
  obtain ⟨-, n, h⟩ := hd.declare_counts
  have hn : rowsWithin es = n := by
    rw [rowsWithin, h, List.headD_cons, Nat.zero_add]
  rw [h, hn]

theorem Document.rowsWithin_outside (hd : Document o es) (ho : inside o .table = false) :
    rowsWithin es = 0 := by
  rw [rowsWithin, hd.declare_counts.1 ho]
  rfl

theorem rowsOnce_append (rows : List Nat) (xs ys : List Event) :
    rowsOnce rows (xs ++ ys) = (rowsOnce rows xs && rowsOnce (xs.foldl declare rows) ys) := by
  induction xs generalizing rows with
  | nil => rfl
  | cons x xs ih => rw [List.cons_append, rowsOnce, rowsOnce, ih, Bool.and_assoc, List.foldl_cons]

theorem Document.rowsOnce (hd : Document o es) (h : RowsOnceEach es) (rows : List Nat) :
    rowsOnce rows es = true := by
  induction hd generalizing rows with
  | nil => rfl
  | @leaf o e rest hl _ _ ih =>
    have hne : e ≠ .tableEnd := by
      rintro rfl
      cases hl
    have hrest := ih (h.of_infix ⟨[e], [], by simp⟩) (declare rows e)
    simp [EventMarkup.rowsOnce, hne, hrest]
  | @construct o s f inner rest hp hf hi _ ihi ihr =>
    have hs : s ≠ .tableEnd := by
      rintro rfl
      cases hp
    have hinner := ihi (h.of_infix ⟨[s], f :: rest, by simp⟩)
    have hrest := ihr (h.of_infix ⟨s :: inner ++ [f], [], by simp⟩)
    have hend : f ≠ .tableEnd ∨ (inner.foldl declare (declare rows s)).head? = some 1 := by
      refine or_iff_not_imp_left.mpr fun hf => ?_
      obtain rfl := not_not.mp hf
      cases hp with
      | table m =>
        have hone : rowsWithin inner = 1 := h [] m inner ⟨⟨rest, by simp⟩, hi⟩
        rw [declare, hi.declare_eq, hone]
        rfl
    simp only [List.cons_append, EventMarkup.rowsOnce, rowsOnce_append, Bool.and_eq_true,
      Bool.or_eq_true, decide_eq_true_eq]
    exact ⟨Or.inl hs, hinner _, hend, hrest _⟩

theorem Event.eq_tableRows {s : Event} (h : s.starts? = some .tableRows) :
    ∃ j grid, s = .tableRows j grid := by
  cases s with
  | tableRows j grid => exact ⟨j, grid, rfl⟩
  | _ => cases h

/-- A table in which rows start, taken apart where they first do. -/
theorem Document.split_at_rows {m : Mapping} (hd : Document (some (.table m)) es)
    (h : rowsWithin es ≠ 0) :
    ∃ before j grid mid rest, es = before ++ .tableRows j grid :: (mid ++ .tableRowsEnd :: rest) ∧
      Document (some (.table m)) before ∧ Document (some (.tableRows j grid)) mid ∧
      Document (some (.table m)) rest := by
  generalize ho : some (Event.table m) = o at hd
  induction hd with
  | nil => exact absurd rfl h
  | @leaf o e rest hl hf hrest ih =>
    subst ho
    have hsame : rowsWithin (e :: rest) = rowsWithin rest := by cases hl <;> rfl
    obtain ⟨before, j, grid, mid, after, rfl, hb, hm, ha⟩ := ih (hsame ▸ h) rfl
    exact ⟨e :: before, j, grid, mid, after, rfl, .leaf hl hf hb, hm, ha⟩
  | @construct o s f inner rest hp hf hi hrest _ ihr =>
    subst ho
    by_cases hr : s.starts? = some .tableRows
    · obtain ⟨j, grid, rfl⟩ := Event.eq_tableRows hr
      cases hp
      exact ⟨[], j, grid, inner, rest, rfl, .nil, hi, hrest⟩
    · have hsame : rowsWithin (s :: inner ++ f :: rest) = rowsWithin rest := by
        have hwhole := declare_construct hp hi.declare_counts.1 hi.declare_counts.2 [0]
        rw [if_neg hr] at hwhole
        simp only [rowsWithin, List.cons_append, List.foldl_cons, List.foldl_append, hwhole]
      obtain ⟨before, j, grid, mid, after, rfl, hb, hm, ha⟩ := ihr (hsame ▸ h) rfl
      refine ⟨s :: inner ++ f :: before, j, grid, mid, after, by simp, ?_, hm, ha⟩
      exact .construct hp hf hi hb

end

/-! ## What a table writes -/

/-- The pieces that events write after others, without empty ones. -/
def written (st : Style) (pre es : List Event) : List String :=
  (output st (transitions st .initial pre) es).filter (· ≠ "")

/-- Pieces that are one table element: its start tag, pieces in which all tables that start or end
do both, and its end tag. -/
def TableElement (st : Style) (ps : List String) : Prop :=
  ∃ a mid, ps = st.startTag "table" a :: mid ++ [st.endTag "table"] ∧ TablesRead st 0 mid 0

/-- Events in a table of which nothing is written before its rows start. -/
def RowsFirst (st : Style) (pre : List Event) (m : Mapping) (inner : List Event) : Prop :=
  ∃ before j grid mid rest,
    inner = before ++ .tableRows j grid :: (mid ++ .tableRowsEnd :: rest) ∧
    Document (some (.table m)) before ∧ Document (some (.tableRows j grid)) mid ∧
    Document (some (.table m)) rest ∧ written st (pre ++ [.table m]) before = []

section
variable (st : Style) (pre : List Event)

theorem written_append (xs ys : List Event) :
    written st pre (xs ++ ys) = written st pre xs ++ written st (pre ++ xs) ys := by
  rw [written, written, written, output_append, List.filter_append, transitions_append]

theorem written_cons (e : Event) (es : List Event) :
    written st pre (e :: es) = written st pre [e] ++ written st (pre ++ [e]) es :=
  written_append st pre [e] es

theorem join_written (es : List Event) (e : Text.LineEnding) :
    String.join ((output st (transitions st .initial pre) es).map (Text.normalize e)) =
      String.join ((written st pre es).map (Text.normalize e)) := by
  unfold written
  induction output st (transitions st .initial pre) es with
  | nil => rfl
  | cons p ps ih =>
    by_cases hp : p = ""
    · subst hp
      have hempty : Text.normalize e "" = "" := by cases e <;> rfl
      simpa [hempty] using ih
    · rw [List.filter_cons_of_pos (by simpa using hp)]
      simp [ih]

theorem written_table (m : Mapping) : written st pre [.table m] = [] := rfl

theorem written_rowsEnd : written st pre [.tableRowsEnd] = [] := rfl

theorem written_rows (j : Option (List (Option String))) (grid : Bool) :
    ∃ a, written st pre [.tableRows j grid] = [st.startTag "table" a] :=
  ⟨_, List.filter_cons_of_pos (by simpa using (st.isTag_start "table" _).ne_empty)⟩

theorem written_tableEnd : written st pre [.tableEnd] = [st.endTag "table"] :=
  List.filter_cons_of_pos (by simpa using (st.isTag_finish "table").ne_empty)

/-- A table, taken apart where its rows start. -/
theorem written_span (m : Mapping) (before mid rest : List Event)
    (j : Option (List (Option String))) (grid : Bool) :
    ∃ a p q, written st pre
        (.table m :: (before ++ .tableRows j grid :: (mid ++ .tableRowsEnd :: rest)) ++
          [.tableEnd]) =
      written st (pre ++ [.table m]) before ++ st.startTag "table" a ::
        (written st p mid ++ written st q rest) ++ [st.endTag "table"] := by
  obtain ⟨a, ha⟩ := written_rows st (pre ++ [.table m] ++ before) j grid
  let p := pre ++ [.table m] ++ before ++ [.tableRows j grid]
  have hspan : .table m :: (before ++ .tableRows j grid :: (mid ++ .tableRowsEnd :: rest)) ++
        [.tableEnd] =
      .table m ::
        (before ++ .tableRows j grid :: (mid ++ .tableRowsEnd :: (rest ++ [.tableEnd]))) := by
    simp
  refine ⟨a, p, p ++ mid ++ [.tableRowsEnd], ?_⟩
  rw [hspan, written_cons, written_table, List.nil_append, written_append, written_cons, ha,
    written_append, written_cons, written_rowsEnd, List.nil_append, written_append,
    written_tableEnd]
  simp [p]

/-- A document in which no rows start directly ends as many tables as it starts, if rows start once
in the tables in it. -/
theorem written_reads {o : Option Event} {es whole : List Event} (hd : Document o es)
    (hi : es <:+: whole) (hraw : ∀ t, .rawText t ∉ whole) (hall : RowsOnceEach whole)
    (hzero : rowsWithin es = 0) : TablesRead st 0 (written st pre es) 0 := by
  have hread := output_reads st (transitions st .initial pre) (fun t ht => hraw t (hi.subset ht))
    (hd.rowsOnce (hall.of_infix hi) [0])
  rw [hd.declare_eq, hzero] at hread
  exact hread.filter_ne_empty

end

/-! ## One element for each table -/

theorem rowsWithin_split {m : Mapping} {before mid rest : List Event}
    {j : Option (List (Option String))} {grid : Bool} (hb : Document (some (.table m)) before)
    (hm : Document (some (.tableRows j grid)) mid) (hr : Document (some (.table m)) rest) :
    rowsWithin (before ++ .tableRows j grid :: (mid ++ .tableRowsEnd :: rest)) =
      rowsWithin before + 1 + rowsWithin rest := by
  have hmid := hm.declare_counts.1 rfl
  have hrows (r : Nat) : declare [r] (.tableRows j grid) = [r + 1] := rfl
  have hend (rows : List Nat) : declare rows .tableRowsEnd = rows := rfl
  rw [rowsWithin, List.foldl_append, hb.declare_eq, List.foldl_cons, hrows, List.foldl_append,
    hmid, List.foldl_cons, hend, hr.declare_eq, List.headD_cons, Nat.zero_add]

section
variable {st : Style} {pre inner : List Event} {m : Mapping} (hone : rowsWithin inner = 1)
  (hraw : ∀ t, .rawText t ∉ inner) (hall : RowsOnceEach inner)
include hone hraw hall

/-- A table whose rows start once and of which nothing is written before they do is written as one
element, if rows start once in the tables in it. -/
theorem RowsFirst.tableElement (h : RowsFirst st pre m inner) :
    TableElement st (written st pre (.table m :: inner ++ [.tableEnd])) := by
  obtain ⟨before, j, grid, mid, rest, rfl, hb, hm, hr, hempty⟩ := h
  obtain ⟨a, p, q, hspan⟩ := written_span st pre m before mid rest j grid
  rw [rowsWithin_split hb hm hr] at hone
  have hmid : TablesRead st 0 (written st p mid) 0 :=
    written_reads st p hm ⟨before ++ [.tableRows j grid], .tableRowsEnd :: rest, by simp⟩ hraw hall
      (hm.rowsWithin_outside rfl)
  have hrest : TablesRead st 0 (written st q rest) 0 :=
    written_reads st q hr ⟨before ++ .tableRows j grid :: (mid ++ [.tableRowsEnd]), [], by simp⟩
      hraw hall (by omega)
  exact ⟨a, written st p mid ++ written st q rest, by rw [hspan, hempty, List.nil_append],
    hmid.append hrest⟩

/-- Of a table that is written as one element, nothing is written before its rows start. -/
theorem TableElement.rowsFirst (hd : Document (some (.table m)) inner)
    (h : TableElement st (written st pre (.table m :: inner ++ [.tableEnd]))) :
    RowsFirst st pre m inner := by
  obtain ⟨before, j, grid, mid, rest, rfl, hb, hm, hr⟩ := hd.split_at_rows (by omega)
  refine ⟨before, j, grid, mid, rest, rfl, hb, hm, hr, ?_⟩
  obtain ⟨a, p, q, hspan⟩ := written_span st pre m before mid rest j grid
  obtain ⟨b, content, heq, hread⟩ := h
  rw [rowsWithin_split hb hm hr] at hone
  have hbefore : TablesRead st 0 (written st (pre ++ [.table m]) before) 0 :=
    written_reads st _ hb ⟨[], .tableRows j grid :: (mid ++ .tableRowsEnd :: rest), by simp⟩ hraw
      hall (by omega)
  rw [hspan, List.append_left_inj] at heq
  cases hw : written st (pre ++ [.table m]) before with
  | nil => rfl
  | cons t ts =>
    -- the first piece would be the start tag of the element, and its end would come before the rows
    rw [hw, List.cons_append, List.cons.injEq] at heq
    obtain ⟨rfl, rfl⟩ := heq
    rw [hw] at hbefore
    cases hbefore with
    | cons hstep hclose =>
      obtain rfl := TableStep.opening_iff.mp hstep
      obtain ⟨k, hts, -⟩ := hread.split
      exact absurd (hclose.unique (hts.shift 1)) (Nat.succ_ne_zero k).symm

end

/-- **When tables are elements.** Let a guard accept events without raw text over a buffer. What the
buffer gets from the start of a table to its end is what the events there write. In all tables rows
start once and all of this is one table element, just if in all tables rows start once and nothing
is written between the start of the table and the start of its rows. -/
theorem tableElements_iff (o : Options) (es : List Event)
    (hok : ((Session.start (.inMemory o) 1).events es).result = .ok ())
    (hraw : ∀ t, .rawText t ∉ es) :
    (∀ pre m inner, HasTable es pre m inner →
      ∃ t, ((Session.start (.inMemory o) 1).events pre).after.sink.value = .ok t ∧
        ((Session.start (.inMemory o) 1).events
            (pre ++ (.table m :: inner ++ [.tableEnd]))).after.sink.value =
          .ok (t ++ String.join ((written o.style pre (.table m :: inner ++ [.tableEnd])).map
            (Text.normalize o.style.lineEnding)))) ∧
    ((∀ pre m inner, HasTable es pre m inner → rowsWithin inner = 1 ∧
        TableElement o.style (written o.style pre (.table m :: inner ++ [.tableEnd]))) ↔
      ∀ pre m inner, HasTable es pre m inner → rowsWithin inner = 1 ∧
        RowsFirst o.style pre m inner) := by
  have hin {pre inner : List Event} {m : Mapping} (ht : HasTable es pre m inner) :
      inner <:+: es := by
    obtain ⟨⟨post, rfl⟩, -⟩ := ht
    exact ⟨pre ++ [.table m], .tableEnd :: post, by simp⟩
  refine ⟨fun pre m inner ht => ?_, fun h pre m inner ht => ?_, fun h pre m inner ht => ?_⟩
  · obtain ⟨⟨post, rfl⟩, -⟩ := ht
    obtain ⟨t, hbefore, hafter⟩ := accepted_append (Session.events_append_ok hok)
    rw [join_written] at hafter
    exact ⟨t, hbefore, hafter⟩
  · have hall : RowsOnceEach es := fun pre m inner ht => (h pre m inner ht).1
    obtain ⟨hone, helement⟩ := h pre m inner ht
    exact ⟨hone, helement.rowsFirst hone (fun t hr => hraw t ((hin ht).subset hr))
      (hall.of_infix (hin ht)) ht.2⟩
  · have hall : RowsOnceEach es := fun pre m inner ht => (h pre m inner ht).1
    obtain ⟨hone, hfirst⟩ := h pre m inner ht
    exact ⟨hone, hfirst.tableElement hone (fun t hr => hraw t ((hin ht).subset hr))
      (hall.of_infix (hin ht))⟩

/-- A table with a caption among its rows. -/
def captionedTable : List Event :=
  [.table ∅, .tableRows none true, .tableCaption ∅, .tableCaptionEnd, .tableRowsEnd, .tableEnd]

theorem captionedTable_element :
    TableElement Options.usual.style (written Options.usual.style [] captionedTable) := by
  have hok : ((Session.start (.inMemory .usual) 1).events captionedTable).result = .ok () := rfl
  obtain ⟨-, hiff⟩ := tableElements_iff .usual captionedTable hok (by simp [captionedTable])
  have hcaption : Document (some (.tableRows none true)) [.tableCaption ∅, .tableCaptionEnd] :=
    .construct (.tableCaption ∅) rfl .nil .nil
  have hinner : Document (some (.table ∅))
      [.tableRows none true, .tableCaption ∅, .tableCaptionEnd, .tableRowsEnd] :=
    .construct (.tableRows none true) rfl hcaption .nil
  refine (hiff.mpr (fun pre m inner ht => ?_) [] ∅ _ ⟨⟨[], rfl⟩, hinner⟩).2
  obtain ⟨⟨post, heq⟩, -⟩ := ht
  obtain ⟨rfl, rfl, rfl, -⟩ : pre = [] ∧ m = ∅ ∧
      inner = [.tableRows none true, .tableCaption ∅, .tableCaptionEnd, .tableRowsEnd] ∧
      post = [] := by
    simpa [captionedTable, List.cons_eq_append_iff, List.append_eq_cons_iff] using heq
  exact ⟨rfl, [], none, true, _, [], rfl, .nil, hcaption, .nil, rfl⟩

/-- A table without rows is accepted, and its end tag is all that is written. -/
theorem rowlessTable_unopened :
    let r := (Session.start (.inMemory .usual) 1).events [.table ∅, .tableEnd]
    HasTable [.table ∅, .tableEnd] [] ∅ [] ∧ rowsWithin [] = 0 ∧ r.result = .ok () ∧
      r.after.openConstructs = .ok [] ∧ r.after.sink.value = .ok "</table>" := by
  exact ⟨⟨⟨[], rfl⟩, .nil⟩, rfl, rfl, rfl, by decide⟩

end EventMarkup
