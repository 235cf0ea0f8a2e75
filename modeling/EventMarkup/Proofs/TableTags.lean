import EventMarkup.Proofs.Nesting
import EventMarkup.Proofs.Output
import EventMarkup.Proofs.TagNames

/-!
# Table tags in what a run writes

A reader of table tags goes through pieces of markup and counts how many tables are open. It gets
stuck at an end tag when none is.

* `Render.respond_reads`: an event takes such a reader along with the list of how often rows have
  started in each open table, unless it ends a table in which they did not start once.
* `Render.output_reads`: so does a run.
-/
namespace EventMarkup

open Render

/-- A reader of table tags goes through a piece, from a number of open tables to another. -/
inductive TableStep (st : Style) : Nat → String → Nat → Prop
  | opening (d : Nat) (a : Attributes) : TableStep st d (st.startTag "table" a) (d + 1)
  | closing (d : Nat) : TableStep st (d + 1) (st.endTag "table") d
  | other (d : Nat) {p : String} : ¬st.IsTag "table" p → TableStep st d p d

/-- A reader of table tags goes through pieces one after the other. -/
inductive TablesRead (st : Style) : Nat → List String → Nat → Prop
  | nil {d : Nat} : TablesRead st d [] d
  | cons {d d' d'' : Nat} {p : String} {ps : List String} :
    TableStep st d p d' → TablesRead st d' ps d'' → TablesRead st d (p :: ps) d''

variable {st : Style} {d d' d'' : Nat} {p : String} {ps qs : List String}

/-! ## One piece -/

namespace TableStep

theorem opening_iff {a : Attributes} :
    TableStep st d (st.startTag "table" a) d' ↔ d' = d + 1 := by
  constructor
  · intro h
    generalize hp : st.startTag "table" a = p at h
    cases h with
    | opening => rfl
    | closing => exact absurd hp (Style.startTag_ne_endTag (by decide))
    | other _ hno => exact absurd (hp ▸ st.isTag_start "table" a) hno
  · rintro rfl
    exact .opening d a

theorem closing_iff : TableStep st d (st.endTag "table") d' ↔ d = d' + 1 := by
  constructor
  · intro h
    generalize hp : st.endTag "table" = p at h
    cases h with
    | opening => exact absurd hp.symm (Style.startTag_ne_endTag (by decide))
    | closing => rfl
    | other _ hno => exact absurd (hp ▸ st.isTag_finish "table") hno
  · rintro rfl
    exact .closing d'

/-- A piece takes a reader to one number of open tables at most. -/
theorem unique (h : TableStep st d p d') (h' : TableStep st d p d'') : d' = d'' := by
  cases h with
  | opening => exact (opening_iff.mp h').symm
  | closing => exact Nat.succ.inj (closing_iff.mp h')
  | other _ hno =>
    cases h' with
    | opening _ a => exact absurd (st.isTag_start "table" a) hno
    | closing => exact absurd (st.isTag_finish "table") hno
    | other => rfl

theorem shift (h : TableStep st d p d') (k : Nat) : TableStep st (d + k) p (d' + k) := by
  cases h with
  | opening _ a =>
    rw [Nat.add_right_comm]
    exact .opening _ a
  | closing =>
    rw [Nat.add_right_comm]
    exact .closing _
  | other _ hno => exact .other _ hno

end TableStep

/-! ## Many pieces -/

namespace TablesRead

theorem append (h : TablesRead st d ps d') (h' : TablesRead st d' qs d'') :
    TablesRead st d (ps ++ qs) d'' := by
  induction h with
  | nil => exact h'
  | cons hp _ ih => exact .cons hp (ih h')

theorem split (h : TablesRead st d (ps ++ qs) d'') :
    ∃ d', TablesRead st d ps d' ∧ TablesRead st d' qs d'' := by
  induction ps generalizing d with
  | nil => exact ⟨d, .nil, h⟩
  | cons p ps ih =>
    cases h with
    | cons hp hrest =>
      obtain ⟨c, hps, hqs⟩ := ih hrest
      exact ⟨c, .cons hp hps, hqs⟩

theorem unique (h : TablesRead st d ps d') (h' : TablesRead st d ps d'') : d' = d'' := by
  induction h with
  | nil =>
    cases h'
    rfl
  | cons hp _ ih =>
    cases h' with
    | cons hp' hps =>
      obtain rfl := hp.unique hp'
      exact ih hps

theorem shift (h : TablesRead st d ps d') (k : Nat) : TablesRead st (d + k) ps (d' + k) := by
  induction h with
  | nil => exact .nil
  | cons hp _ ih => exact .cons (hp.shift k) ih

theorem of_avoids (h : Avoids st "table" ps) : TablesRead st d ps d := by
  induction ps with
  | nil => exact .nil
  | cons p ps ih =>
    rw [Avoids, List.forall_mem_cons] at h
    exact .cons (.other d h.1) (ih h.2)

theorem filter_ne_empty (h : TablesRead st d ps d') :
    TablesRead st d (ps.filter (· ≠ "")) d' := by
  induction h with
  | nil => exact .nil
  | @cons d d' d'' p ps hp _ ih =>
    by_cases hempty : p = ""
    · have hno : ¬st.IsTag "table" "" := Style.not_isTag_plain (by decide)
      subst hempty
      obtain rfl := hp.unique (.other d hno)
      simpa using ih
    · rw [List.filter_cons_of_pos (by simpa using hempty)]
      exact .cons hp ih

end TablesRead

/-! ## Events -/

/-- How many tables a reader of tags has open, told from how often rows have started in each. -/
def tablesOpen (rows : List Nat) : Nat := rows.foldr (· + ·) 0

@[simp] theorem tablesOpen_cons (n : Nat) (rows : List Nat) :
    tablesOpen (n :: rows) = n + tablesOpen rows := rfl

/-- An event takes a reader of table tags along with how often rows have started in each open
table. -/
theorem Render.respond_reads (st : Style) (s : RenderState) {e : Event} {rows : List Nat}
    (hraw : ∀ t, e ≠ .rawText t) (hend : e = .tableEnd → rows.head? = some 1) :
    TablesRead st (tablesOpen rows) (respond st s e).pieces (tablesOpen (declare rows e)) := by
  by_cases he : "table" ∈ e.tags
  · rcases Event.mem_tags he (Or.inl rfl) with ⟨-, ⟨j, grid, rfl⟩ | rfl⟩ | ⟨hname, -⟩
    · have hopen : tablesOpen (declare rows (.tableRows j grid)) = tablesOpen rows + 1 := by
        cases rows with
        | nil => rfl
        | cons n rows =>
          simp only [declare, List.headD_cons, List.tail_cons, tablesOpen_cons]
          omega
      rw [hopen]
      exact .cons (.opening _ _) .nil
    · obtain ⟨rows, rfl⟩ := List.head?_eq_some_iff.mp (hend rfl)
      have hopen : tablesOpen (1 :: rows) = tablesOpen (declare (1 :: rows) .tableEnd) + 1 := by
        simp only [declare, List.tail_cons, tablesOpen_cons]
        omega
      rw [hopen]
      exact .cons (.closing _) .nil
    · exact absurd hname (by decide)
  · have hopen : tablesOpen (declare rows e) = tablesOpen rows := by
      cases e with
      | table m => simp [declare]
      | tableRows | tableEnd => simp [Event.tags] at he
      | _ => rfl
    rw [hopen]
    exact .of_avoids (respond_avoids st s (by decide) hraw he)

/-- A run in which rows start once in each table takes a reader of table tags from the tables open
before to those open after. -/
theorem Render.output_reads (st : Style) (s : RenderState) {es : List Event} {rows : List Nat}
    (hraw : ∀ t, .rawText t ∉ es) (hrows : rowsOnce rows es = true) :
    TablesRead st (tablesOpen rows) (output st s es) (tablesOpen (es.foldl declare rows)) := by
  induction es generalizing s rows with
  | nil => exact .nil
  | cons e es ih =>
    simp only [List.mem_cons, not_or] at hraw
    simp only [rowsOnce, Bool.and_eq_true, Bool.or_eq_true, decide_eq_true_eq] at hrows
    obtain ⟨hfirst, hrest⟩ := hrows
    have hread : TablesRead st (tablesOpen rows) (respond st s e).pieces
        (tablesOpen (declare rows e)) :=
      respond_reads st s (fun t => Ne.symm (hraw t).1) fun he =>
        hfirst.resolve_left fun hne => hne he
    exact hread.append (ih _ (fun t => (hraw t).2) hrest)

end EventMarkup
