import EventMarkup.Proofs.PageMarkup

/-!
# Pages put together

Two texts with two line feeds between them are read as if each stood alone. However the first text
ends, there is a blank line between the two, and no run goes on behind it.

* `Text.lines_gap`: the lines of the whole.
* `Wiki.readBlocks_joined`: the blocks of the whole, with any readers.
* `joined_pages`: the blocks and the markup, with the usual readers.
-/
namespace EventMarkup

namespace Text

/-! ## Lines -/

theorem joinLine_append (c : Char) {ls : List (List Char)} (h : ls ≠ []) (ms : List (List Char)) :
    joinLine c (ls ++ ms) = joinLine c ls ++ ms := by
  cases ls with
  | nil => exact absurd rfl h
  | cons l ls => rfl

theorem lineChars_ne_nil {cs : List Char} (h : cs ≠ []) : lineChars cs ≠ [] := by
  induction cs with
  | nil => exact absurd rfl h
  | cons c cs ih =>
    rw [lineChars]
    split
    · rename_i hpair
      exact ih fun hnil => by simp [hnil] at hpair
    · split
      · exact List.cons_ne_nil _ _
      · cases lineChars cs <;> exact List.cons_ne_nil _ _

/-- A text may be cut into lines piece by piece behind a line feed. -/
theorem lineChars_append_feed (xs ys : List Char) :
    lineChars (xs ++ '\n' :: ys) = lineChars (xs ++ ['\n']) ++ lineChars ys := by
  induction xs with
  | nil => rfl
  | cons c xs ih =>
    have hhead : (xs ++ '\n' :: ys).head? = (xs ++ ['\n']).head? := by cases xs <;> rfl
    have hne : lineChars (xs ++ ['\n']) ≠ [] := lineChars_ne_nil (by simp)
    rw [List.cons_append, List.cons_append, lineChars, lineChars, hhead, ih]
    split
    · rfl
    · split
      · rfl
      · exact joinLine_append c hne _

theorem lineChars_feed (xs : List Char) :
    lineChars (xs ++ ['\n']) = lineChars xs ∨ lineChars (xs ++ ['\n']) = lineChars xs ++ [[]] := by
  have hfeed : isTerminator '\n' = true := by decide
  induction xs with
  | nil => exact .inr rfl
  | cons c xs ih =>
    cases xs with
    | nil =>
      by_cases hc : c = '\r'
      · exact .inl (by rw [hc]; rfl)
      · cases ht : isTerminator c with
        | true => exact .inr (by simp [lineChars, hc, ht, hfeed])
        | false => exact .inl (by simp [lineChars, hc, ht, hfeed, joinLine])
    | cons d xs =>
      rw [List.cons_append, lineChars, lineChars]
      rcases ih with ih | ih
      · exact .inl (by rw [ih]; rfl)
      · refine .inr ?_
        have hhead : (d :: xs ++ ['\n']).head? = (d :: xs).head? := rfl
        rw [ih, hhead]
        split
        · rfl
        · split
          · rfl
          · exact joinLine_append c (lineChars_ne_nil (List.cons_ne_nil d xs)) _

/-- Between two texts with two line feeds between them there is a blank line, or two. -/
theorem lines_gap (s t : String) :
    lines (s ++ "\n\n" ++ t) = lines s ++ "" :: lines t ∨
      lines (s ++ "\n\n" ++ t) = lines s ++ "" :: "" :: lines t := by
  have hchars : (s ++ "\n\n" ++ t).toList = s.toList ++ '\n' :: '\n' :: t.toList := by
    simp
  have hcut : lineChars (s ++ "\n\n" ++ t).toList =
      lineChars (s.toList ++ ['\n']) ++ [] :: lineChars t.toList := by
    rw [hchars, lineChars_append_feed]
    rfl
  rw [lines, hcut, List.map_append]
  rcases lineChars_feed s.toList with hfeed | hfeed
  · exact .inl (by rw [hfeed]; rfl)
  · exact .inr (by rw [hfeed, List.map_append, List.append_assoc]; rfl)

/-- A carriage return at the end makes one line ending with the first of the line feeds. -/
example : lines ("a\r" ++ "\n\n" ++ "b") = ["a", "", "b"] ∧
    lines ("a\n" ++ "\n\n" ++ "b") = ["a", "", "", "b"] := by decide

end Text

namespace Wiki

/-! ## Runs and blocks -/

theorem lineRuns_gap (s t : String) :
    lineRuns (Text.lines (s ++ "\n\n" ++ t)) =
      lineRuns (Text.lines s) ++ lineRuns (Text.lines t) := by
  have hblank : isFilled "" = false := by decide
  rcases Text.lines_gap s t with hlines | hlines
  · rw [hlines, lineRuns_append_blank hblank]
  · rw [hlines, lineRuns_append_blank hblank, lineRuns_blank hblank]

/-- If two texts are read, then so are they with two line feeds between them, and the blocks of the
second come behind those of the first. -/
theorem readBlocks_joined {readers : List BlockReader} {s t : String} {b₁ b₂ : List Block}
    {c₁ c₂ : Cursor} (h₁ : readBlocks readers (.ofText s) = .ok (b₁, c₁))
    (h₂ : readBlocks readers (.ofText t) = .ok (b₂, c₂)) :
    ∃ c, readBlocks readers (.ofText (s ++ "\n\n" ++ t)) = .ok (b₁ ++ b₂, c) := by
  have hruns : List.Forall₂ (fun run b => readRun? readers run = some b)
      (lineRuns (Text.lines (s ++ "\n\n" ++ t))) (b₁ ++ b₂) := by
    rw [lineRuns_gap]
    exact List.rel_append (runs_of_readBlocks h₁) (runs_of_readBlocks h₂)
  obtain ⟨c, hread, -⟩ := readBlocks_of_runs (c := .ofText (s ++ "\n\n" ++ t)) hruns
  exact ⟨c, hread⟩

/-! ## Markup -/

theorem markup_append (q : Option String) (xs ys : List Block) :
    markup q (xs ++ ys) = markup q xs ++ markup q ys := by
  rw [markup, List.map_append, String.join_append]
  rfl

end Wiki

open Wiki

/-- Whether a page goes well into a new sink with options, its own buffer and some number of guards
around it, and what the buffer holds then. -/
def RendersAs (o : Options) (guards : Nat) (t w : String) : Prop :=
  let outcome := (Session.start (.inMemory o) guards).page BlockReader.usual t
  outcome.result = .ok () ∧ outcome.after.sink.value = .ok w

theorem rendersAs_markup (o : Options) (guards : Nat) {t : String} {blocks : List Block}
    {c : Cursor} (h : readBlocks BlockReader.usual (.ofText t) = .ok (blocks, c)) :
    RendersAs o guards t (markup (o.style.qualifier.map (Text.normalize o.lineEnding)) blocks) := by
  obtain ⟨blocks', c', hread, hneat⟩ := readBlocks_neat t
  obtain ⟨rfl, rfl⟩ := Prod.mk.inj (Except.ok.inj (h.symm.trans hread))
  have hk := Sink.inMemory_ready o
  have hcolumns : Render.ColumnsFound (Sink.inMemory o).style (Sink.inMemory o).state
      (events blocks) := Render.columnsFound_of_no_cell (not_cell_mem_events blocks)
  obtain ⟨hok, hready, htext⟩ := hk.run hcolumns
  have hg : List.Forall₂ (fun g g' => Guard.acceptAll g (events blocks) = .ok g')
      (List.replicate guards []) (List.replicate guards []) :=
    List.forall₂_same.mpr fun g _ => acceptAll_events blocks g
  obtain ⟨hresult, hafter⟩ := Session.events_allAccept hk.vocabulary hg hok
  rw [output_blocks (Sink.inMemory o).style rfl hneat] at htext
  simp only [RendersAs, Session.start, Session.page, hread, Outcome.bind]
  refine ⟨hresult, ?_⟩
  rw [hafter, hready.value, htext]
  exact congrArg Except.ok String.empty_append

/-- **Pages put together.** Two texts with two line feeds between them have the blocks of the first,
then those of the second; and a new sink in memory, whatever its options and however many guards are
around it, holds of them what it holds of the first and then of the second alone. -/
theorem joined_pages (o : Options) (guards : Nat) (s t : String) :
    ∃ b₁ b₂ c₁ c₂ c,
      readBlocks BlockReader.usual (.ofText s) = .ok (b₁, c₁) ∧
      readBlocks BlockReader.usual (.ofText t) = .ok (b₂, c₂) ∧
      readBlocks BlockReader.usual (.ofText (s ++ "\n\n" ++ t)) = .ok (b₁ ++ b₂, c) ∧
      ∃ w₁ w₂, RendersAs o guards s w₁ ∧ RendersAs o guards t w₂ ∧
        RendersAs o guards (s ++ "\n\n" ++ t) (w₁ ++ w₂) := by
  obtain ⟨b₁, c₁, h₁, -⟩ := readBlocks_neat s
  obtain ⟨b₂, c₂, h₂, -⟩ := readBlocks_neat t
  obtain ⟨c, hjoined⟩ := readBlocks_joined h₁ h₂
  refine ⟨b₁, b₂, c₁, c₂, c, h₁, h₂, hjoined, _, _, rendersAs_markup o guards h₁,
    rendersAs_markup o guards h₂, ?_⟩
  rw [← markup_append]
  exact rendersAs_markup o guards hjoined

end EventMarkup
