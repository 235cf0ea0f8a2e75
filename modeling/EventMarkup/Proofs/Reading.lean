import EventMarkup.Proofs.LineRuns

/-!
# Reading a page

A page is read run by run. Each run is a block, made of it by the first reader that accepts its
first line; at the first run that no reader accepts, the page is refused.

* `readBlocks_cases`: what comes of a page, with any readers.
* `readBlocks_of_runs`, `runs_of_readBlocks`: a page is read just if all of its runs are, and its
  blocks are theirs.
-/
namespace EventMarkup.Wiki

/-- The block that the first reader to accept a run's first line makes of it. -/
def readRun? (readers : List BlockReader) : List String → Option Block
  | [] => none
  | line :: rest =>
    (readers.find? fun r => r.accepts line).map fun r => r.block line (rest.map Text.trim)

/-- Whether no reader accepts a line. -/
def Refused (readers : List BlockReader) (line : String) : Prop :=
  ∀ r ∈ readers, r.accepts line = false

/-- The first of the runs of lines whose first line no reader accepts: that line is `line`, and
`before` and `after` are the lines around it. -/
structure FirstRefused (readers : List BlockReader) (ls before : List String) (line : String)
    (after : List String) : Prop where
  split : ls = before ++ line :: after
  starts : ∀ l ∈ before.getLast?, isFilled l = false
  filled : isFilled line = true
  refused : Refused readers line
  earlier : ∀ first rest, first :: rest ∈ lineRuns before → ¬Refused readers first

variable {readers : List BlockReader}

/-! ## One line -/

theorem find?_eq_none_iff {line : String} :
    (readers.find? fun r => r.accepts line) = none ↔ Refused readers line := by
  simp only [List.find?_eq_none, Bool.not_eq_true, Refused]

theorem not_refused_of_find? {line : String} {r : BlockReader}
    (h : (readers.find? fun r => r.accepts line) = some r) : ¬Refused readers line := by
  intro hrefused
  rw [find?_eq_none_iff.mpr hrefused] at h
  cases h

theorem readRun?_eq_none_iff {line : String} {rest : List String} :
    readRun? readers (line :: rest) = none ↔ Refused readers line := by
  rw [readRun?, Option.map_eq_none_iff, find?_eq_none_iff]

theorem not_refused_of_read {runs : List (List String)} {blocks : List Block}
    (h : List.Forall₂ (fun run b => readRun? readers run = some b) runs blocks)
    {line : String} {rest : List String} (hrun : line :: rest ∈ runs) : ¬Refused readers line := by
  have hsome := (List.forall₂_and_left (p := fun run => readRun? readers run ≠ none) ..).mp
    (h.imp fun run b hb => ⟨by rw [hb]; exact Option.some_ne_none b, hb⟩)
  exact fun hrefused => hsome.1 _ hrun (readRun?_eq_none_iff.mpr hrefused)

section
variable {before rest : List String} {line : String} {u : Bool}

theorem readBlocks_nil : readBlocks readers ⟨before, [], u⟩ = .ok ([], ⟨before, [], false⟩) := by
  rw [readBlocks]

theorem readBlocks_blank (h : isFilled line = false) :
    readBlocks readers ⟨before, line :: rest, u⟩ =
      readBlocks readers ⟨line :: before, rest, true⟩ := by
  have hb : Text.isBlankText line = true := by simpa [isFilled] using h
  rw [readBlocks]
  simp [hb]

theorem readBlocks_filled {r : BlockReader} (h : isFilled line = true)
    (hr : (readers.find? fun r => r.accepts line) = some r) :
    readBlocks readers ⟨before, line :: rest, u⟩ =
      (readBlocks readers (Cursor.runFrom (line :: before) rest).2).map fun (blocks, e) =>
        (r.block line ((rest.takeWhile isFilled).map Text.trim) :: blocks, e) := by
  have hb : Text.isBlankText line = false := by simpa [isFilled] using h
  rw [← Cursor.runFrom_lines (line :: before), readBlocks]
  simp only [hb, Bool.false_eq_true, if_false, hr, Cursor.run]
  cases readBlocks readers (Cursor.runFrom (line :: before) rest).2 <;> rfl

theorem readBlocks_refused (h : isFilled line = true) (hr : Refused readers line) :
    readBlocks readers ⟨before, line :: rest, u⟩ = .error (.unparsed (before.length + 1) line) := by
  have hb : Text.isBlankText line = false := by simpa [isFilled] using h
  rw [readBlocks]
  simp [hb, find?_eq_none_iff.mpr hr, Cursor.lineNumber]

end

/-! ## The first run that is refused -/

/-- Lines with something behind their first run have a blank line after that. -/
theorem exists_blank {rest : List String} (h : (rest.dropWhile isFilled).tail ≠ []) :
    ∃ blank, isFilled blank = false ∧
      rest = rest.takeWhile isFilled ++ blank :: (rest.dropWhile isFilled).tail := by
  have hstop := List.head?_dropWhile_not isFilled rest
  cases hdrop : rest.dropWhile isFilled with
  | nil =>
    rw [hdrop] at h
    exact absurd rfl h
  | cons blank tail =>
    rw [hdrop] at hstop
    refine ⟨blank, hstop, ?_⟩
    rw [List.tail_cons, ← hdrop, List.takeWhile_append_dropWhile]

namespace FirstRefused

variable {ls before after : List String} {line : String}

theorem mem_lineRuns (h : FirstRefused readers ls before line after) :
    line :: after.takeWhile isFilled ∈ lineRuns ls := by
  rw [h.split, lineRuns_append h.starts, lineRuns_filled h.filled]
  simp

/-- With more lines in front, whose runs are read, and a blank line after them, it is still the
first. -/
theorem behind (h : FirstRefused readers ls before line after) {front : List String}
    {blank : String} (hblank : isFilled blank = false)
    (hread : ∀ first rest, first :: rest ∈ lineRuns front → ¬Refused readers first) :
    FirstRefused readers (front ++ blank :: ls) (front ++ blank :: before) line after where
  split := by rw [h.split, List.append_assoc, List.cons_append]
  starts := by
    intro l hl
    rw [List.getLast?_append_of_ne_nil _ (List.cons_ne_nil _ _)] at hl
    cases before with
    | nil =>
      obtain rfl := Option.some.inj hl
      exact hblank
    | cons => exact h.starts l hl
  filled := h.filled
  refused := h.refused
  earlier := by
    intro first rest hrun
    rw [lineRuns_append_blank hblank, List.mem_append] at hrun
    rcases hrun with hrun | hrun
    · exact hread first rest hrun
    · exact h.earlier first rest hrun

/-- With a run in front that some reader accepts, it is still the first. -/
theorem behind_run {first : String} {rest : List String} (hf : isFilled first = true)
    (hread : ¬Refused readers first)
    (h : FirstRefused readers (rest.dropWhile isFilled).tail before line after) :
    ∃ before', FirstRefused readers (first :: rest) before' line after := by
  have hbehind : (rest.dropWhile isFilled).tail ≠ [] := by simp [h.split]
  obtain ⟨blank, hblank, hrest⟩ := exists_blank hbehind
  have hlines : first :: rest =
      first :: rest.takeWhile isFilled ++ blank :: (rest.dropWhile isFilled).tail :=
    congrArg _ hrest
  have hrun : ∀ l ∈ first :: rest.takeWhile isFilled, isFilled l = true :=
    List.forall_mem_cons.mpr ⟨hf, fun _ hl => List.mem_takeWhile_imp hl⟩
  rw [hlines]
  refine ⟨_, h.behind hblank fun l more hmem => ?_⟩
  rw [lineRuns_single (List.cons_ne_nil _ _) hrun, List.mem_singleton] at hmem
  obtain ⟨rfl, -⟩ := List.cons.inj hmem
  exact hread

end FirstRefused

/-! ## All lines -/

variable (readers) in
/-- A page is read to its end, run by run, each by the first reader that accepts its first line; or
it is refused at the first run that no reader accepts. -/
theorem readBlocks_cases (c : Cursor) :
    (∃ blocks e, readBlocks readers c = .ok (blocks, e) ∧ e.lineNumber = c.total ∧
        List.Forall₂ (fun run b => readRun? readers run = some b) (lineRuns c.after) blocks) ∨
      ∃ before line after, FirstRefused readers c.after before line after ∧
        readBlocks readers c = .error (.unparsed (c.total - after.length) line) := by
  obtain ⟨read, ls, u⟩ := c
  simp only
  -- the lines behind the refused one and the number of all lines stay the same along the page
  induction ls using lines_induction generalizing read u with
  | nil => exact .inl ⟨[], _, readBlocks_nil, rfl, .nil⟩
  | blank line rest hf ih =>
    have hih := ih (line :: read) true
    rw [Cursor.total_cons _ _ _ _ u, ← readBlocks_blank hf (u := u)] at hih
    rcases hih with ⟨blocks, e, hread, hn, hruns⟩ | ⟨before, l, after, hfirst, hread⟩
    · rw [lineRuns_blank hf]
      exact .inl ⟨blocks, e, hread, hn, hruns⟩
    · have hbehind : FirstRefused readers ([] ++ line :: rest) ([] ++ line :: before) l after :=
        hfirst.behind hf (by simp [lineRuns_nil])
      exact .inr ⟨line :: before, l, after, hbehind, hread⟩
  | filled line rest hf ih =>
    cases hr : readers.find? fun r => r.accepts line with
    | none =>
      have hrefused := find?_eq_none_iff.mp hr
      have hnumber : Cursor.total ⟨read, line :: rest, u⟩ - rest.length = read.length + 1 := by
        simp only [Cursor.total, List.length_cons]
        omega
      refine .inr ⟨[], line, rest, ⟨rfl, by simp, hf, hrefused, by simp [lineRuns_nil]⟩, ?_⟩
      rw [hnumber]
      exact readBlocks_refused hf hrefused
    | some r =>
      have hafter := Cursor.runFrom_after (line :: read) rest
      have htotal : (Cursor.runFrom (line :: read) rest).2.total =
          Cursor.total ⟨read, line :: rest, u⟩ :=
        (Cursor.runFrom_total _ _ true).trans (Cursor.total_cons ..)
      rw [readBlocks_filled hf hr]
      generalize (Cursor.runFrom (line :: read) rest).2 = c at hafter htotal ⊢
      have hih := ih c.before c.canUnget
      rw [← hafter, htotal] at hih
      rcases hih with ⟨blocks, e, hread, hn, hruns⟩ | ⟨before, l, after, hfirst, hread⟩
      · refine .inl ⟨_, e, by rw [hread]; rfl, hn, ?_⟩
        rw [lineRuns_filled hf, ← hafter]
        exact .cons (by simp [readRun?, hr]) hruns
      · obtain ⟨before', hfirst'⟩ :=
          FirstRefused.behind_run hf (not_refused_of_find? hr) (hafter ▸ hfirst)
        exact .inr ⟨before', l, after, hfirst', by rw [hread]; rfl⟩

/-- Readers are asked in order and only about the first line of a run. -/
example : readBlocks [.figure] (.ofText "!a! b\nc\n\n\nd") = .error (.unparsed 5 "d") ∧
    readBlocks [.paragraph, .figure] (.ofText "!a! b\nc") =
      .ok ([.paragraph "!a! b c"], ⟨["c", "!a! b"], [], false⟩) := by decide +kernel

theorem runs_of_readBlocks {c e : Cursor} {blocks : List Block}
    (h : readBlocks readers c = .ok (blocks, e)) :
    List.Forall₂ (fun run b => readRun? readers run = some b) (lineRuns c.after) blocks := by
  rcases readBlocks_cases readers c with ⟨_, _, hread, -, hruns⟩ | ⟨_, _, _, -, hread⟩ <;>
    rw [h] at hread <;> cases hread
  exact hruns

/-- If every run is read as a block, then the page is read as these blocks, to its end. -/
theorem readBlocks_of_runs {c : Cursor} {blocks : List Block}
    (h : List.Forall₂ (fun run b => readRun? readers run = some b) (lineRuns c.after) blocks) :
    ∃ e, readBlocks readers c = .ok (blocks, e) ∧ e.lineNumber = c.total := by
  rcases readBlocks_cases readers c with ⟨blocks', e, hread, hn, hruns⟩ | ⟨_, _, _, hfirst, -⟩
  · have hsame : blocks' = blocks :=
      List.right_unique_forall₂' (fun _ _ _ hb hb' => Option.some.inj (hb.symm.trans hb')) hruns h
    exact ⟨e, hsame ▸ hread, hn⟩
  · exact absurd hfirst.refused (not_refused_of_read h hfirst.mem_lineRuns)

end EventMarkup.Wiki
