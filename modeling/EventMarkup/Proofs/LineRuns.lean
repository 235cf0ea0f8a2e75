import EventMarkup.Proofs.Trimmed
import EventMarkup.Wiki.Page
import Mathlib.Data.List.Forall2

/-!
# Runs of lines

The blocks of a page are the maximal runs of lines that are not blank. A cursor comes to the end of
a run where a blank line takes it away, so readers never see where a run ends or how many blank
lines follow it.

* `lineRuns_append_blank`: what a blank line parts can be cut into runs by itself.
* `lines_induction`: lines are taken one blank line or one run at a time, as a cursor takes them.
-/
namespace EventMarkup.Wiki

/-- The maximal runs of consecutive lines of which trimming leaves something. -/
def lineRuns (ls : List String) : List (List String) :=
  (ls.splitOnP fun l => Text.trim l = "").filter (· ≠ [])

/-- Whether a line is not blank. -/
def isFilled (line : String) : Bool := !Text.isBlankText line

theorem trim_eq_empty_of_not_filled {line : String} (h : isFilled line = false) :
    Text.trim line = "" := by
  rw [Text.trim_eq_empty_iff]
  simpa [isFilled] using h

theorem trim_ne_empty_of_filled {line : String} (h : isFilled line = true) :
    Text.trim line ≠ "" := by
  rw [Ne, Text.trim_eq_empty_iff]
  simpa [isFilled] using h

theorem lineRuns_nil : lineRuns [] = [] := rfl

theorem lineRuns_blank {line : String} (h : isFilled line = false) (rest : List String) :
    lineRuns (line :: rest) = lineRuns rest := by
  simp [lineRuns, List.splitOnP_cons_eq_if_modifyHead, trim_eq_empty_of_not_filled h]

/-- A run that stands behind a blank line begins there, whatever comes before. -/
theorem lineRuns_append_blank {line : String} (h : isFilled line = false) (xs ys : List String) :
    lineRuns (xs ++ line :: ys) = lineRuns xs ++ lineRuns ys := by
  rw [lineRuns, List.splitOnP_append_cons _ _ (by simpa using trim_eq_empty_of_not_filled h),
    List.filter_append]
  rfl

theorem lineRuns_append {xs : List String} (h : ∀ l ∈ xs.getLast?, isFilled l = false)
    (ys : List String) : lineRuns (xs ++ ys) = lineRuns xs ++ lineRuns ys := by
  rcases List.eq_nil_or_concat xs with rfl | ⟨front, line, rfl⟩
  · rfl
  · have hblank : isFilled line = false := h line (by simp)
    have hfront := lineRuns_append_blank hblank front []
    rw [lineRuns_nil, List.append_nil] at hfront
    rw [List.concat_eq_append, hfront, List.append_assoc]
    exact lineRuns_append_blank hblank front ys

theorem lineRuns_single {run : List String} (hne : run ≠ [])
    (h : ∀ l ∈ run, isFilled l = true) : lineRuns run = [run] := by
  have hrun : ∀ l ∈ run, decide (Text.trim l = "") = false := by
    intro l hl
    simpa using trim_ne_empty_of_filled (h l hl)
  simp [lineRuns, List.splitOnP_eq_singleton hrun, hne]

theorem lineRuns_filled {line : String} (h : isFilled line = true) (rest : List String) :
    lineRuns (line :: rest) =
      (line :: rest.takeWhile isFilled) :: lineRuns (rest.dropWhile isFilled).tail := by
  have hone : lineRuns (line :: rest.takeWhile isFilled) = [line :: rest.takeWhile isFilled] :=
    lineRuns_single (List.cons_ne_nil _ _)
      (List.forall_mem_cons.mpr ⟨h, fun _ hl => List.mem_takeWhile_imp hl⟩)
  have hrest : line :: rest = (line :: rest.takeWhile isFilled) ++ rest.dropWhile isFilled := by
    simp
  rw [hrest]
  cases htail : rest.dropWhile isFilled with
  | nil =>
    rw [List.append_nil, hone]
    rfl
  | cons blank tail =>
    have hb : isFilled blank = false := by
      have hstop := List.head?_dropWhile_not isFilled rest
      rwa [htail] at hstop
    rw [lineRuns_append_blank hb, hone]
    rfl

example : lineRuns ["a", " b", "\t", "", "c"] = [["a", " b"], ["c"]] := by decide

/-- Lines are taken one blank line or one run at a time. -/
theorem lines_induction {P : List String → Prop} (nil : P [])
    (blank : ∀ line rest, isFilled line = false → P rest → P (line :: rest))
    (filled : ∀ line rest, isFilled line = true → P (rest.dropWhile isFilled).tail →
      P (line :: rest)) : ∀ ls, P ls := by
  intro ls
  induction hn : ls.length using Nat.strongRecOn generalizing ls with
  | ind n ih =>
    cases ls with
    | nil => exact nil
    | cons line rest =>
      rw [List.length_cons] at hn
      cases hf : isFilled line with
      | false => exact blank line rest hf (ih _ (by omega) rest rfl)
      | true =>
        have hle := (List.dropWhile_sublist isFilled (l := rest)).length_le
        refine filled line rest hf (ih _ ?_ _ rfl)
        rw [List.length_tail]
        omega

/-! ## The cursor -/

namespace Cursor

theorem runFrom_lines (before after : List String) :
    (runFrom before after).1 = (after.takeWhile isFilled).map Text.trim := by
  induction after generalizing before with
  | nil => rfl
  | cons line rest ih =>
    cases hb : Text.isBlankText line with
    | true => simp [runFrom, isFilled, hb]
    | false => simp [runFrom, isFilled, hb, ih]

theorem runFrom_after (before after : List String) :
    (runFrom before after).2.after = (after.dropWhile isFilled).tail := by
  induction after generalizing before with
  | nil => rfl
  | cons line rest ih =>
    cases hb : Text.isBlankText line with
    | true => simp [runFrom, isFilled, hb]
    | false => simp [runFrom, isFilled, hb, ih]

def total (c : Cursor) : Nat := c.before.length + c.after.length

theorem total_cons (line : String) (before after : List String) (u v : Bool) :
    total ⟨line :: before, after, u⟩ = total ⟨before, line :: after, v⟩ :=
  Nat.succ_add_eq_add_succ _ _

theorem runFrom_total (before after : List String) (u : Bool) :
    (runFrom before after).2.total = total ⟨before, after, u⟩ := by
  induction after generalizing before with
  | nil => rfl
  | cons line rest ih =>
    rw [← total_cons line before rest u]
    cases hb : Text.isBlankText line with
    | true =>
      rw [runFrom, if_pos hb]
      rfl
    | false =>
      rw [runFrom, if_neg (by simp [hb]), ← ih]

end Cursor

end EventMarkup.Wiki
