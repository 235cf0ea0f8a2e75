import EventMarkup.Proofs.Reading

/-!
# The blocks of a page

What block a run of lines is (`BlockOf`): a figure if its first line has an image between a mark at
the start and its last mark, else a paragraph. A caption or a paragraph consists of the trimmed
parts that are not empty, with single spaces between them.

* `accepts_figure_iff`: the reader of figures accepts just the lines that start a figure.
* `readBlocks_usual`: a page is read as one block for each of its runs of lines, in order and to the
  end of the page, and the texts of its blocks are neat.
-/
namespace EventMarkup.Wiki

/-! ## What block a run of lines is -/

/-- A line that starts a figure: the image stands between a mark at the start of the line and the
last mark in it. -/
structure FigureLine (line : String) (image back : List Char) : Prop where
  marks : line.toList = '!' :: (image ++ '!' :: back)
  last : '!' ∉ back
  image_ne_nil : image ≠ []

/-- The part of a caption on the first line of its figure: trimmed, without a double backslash in
front, and trimmed again. -/
def captionFirst (back : List Char) : String :=
  let trimmed := Text.trimChars back
  String.ofList (Text.trimChars
    (if ['\\', '\\'].isPrefixOf trimmed then trimmed.drop 2 else trimmed))

/-- The caption that consists of some parts; there is none if all of them are empty. -/
def captionOf (parts : List String) : Option String :=
  if parts.all (· = "") then none
  else some (String.intercalate " " (parts.filter (· ≠ "")))

/-- What block a run of lines is. -/
inductive BlockOf : List String → Block → Prop
  | figure {line : String} {rest : List String} {image back : List Char} :
    FigureLine line image back →
      BlockOf (line :: rest)
        (.figure (String.ofList image) (captionOf (captionFirst back :: rest.map Text.trim)))
  | paragraph {line : String} {rest : List String} :
    (∀ image back, ¬FigureLine line image back) →
      BlockOf (line :: rest) (.paragraph
        (String.intercalate " " (((line :: rest).map Text.trim).filter (· ≠ ""))))

/-- Captions and paragraphs are neat; the source of an image is not empty and holds no
terminator. -/
def Block.Neat : Block → Prop
  | .figure image caption =>
    (image ≠ "" ∧ ∀ c ∈ image.toList, Text.isTerminator c = false) ∧ ∀ t ∈ caption, Text.Neat t
  | .paragraph t => Text.Neat t

/-! ## Figure lines -/

theorem splitAtLastMark_none {cs : List Char} (h : splitAtLastMark cs = none) : '!' ∉ cs := by
  induction cs with
  | nil => simp
  | cons c cs ih =>
    rw [splitAtLastMark] at h
    split at h
    · cases h
    · rename_i hn
      split at h
      · cases h
      · rename_i hc
        simp only [List.mem_cons, not_or]
        exact ⟨Ne.symm hc, ih hn⟩

theorem splitAtLastMark_some {cs front back : List Char}
    (h : splitAtLastMark cs = some (front, back)) : cs = front ++ '!' :: back ∧ '!' ∉ back := by
  induction cs generalizing front with
  | nil => cases h
  | cons c cs ih =>
    rw [splitAtLastMark] at h
    split at h
    · rename_i front' back' hs
      cases h
      obtain ⟨hcs, hback⟩ := ih hs
      exact ⟨by rw [hcs]; rfl, hback⟩
    · rename_i hn
      split at h
      · rename_i hc
        cases h
        exact ⟨by rw [hc]; rfl, splitAtLastMark_none hn⟩
      · cases h

theorem splitAtLastMark_append {back : List Char} (h : '!' ∉ back) (front : List Char) :
    splitAtLastMark (front ++ '!' :: back) = some (front, back) := by
  have hnone : splitAtLastMark back = none := by
    cases hs : splitAtLastMark back with
    | none => rfl
    | some p =>
      rw [(splitAtLastMark_some hs).1] at h
      simp at h
  induction front with
  | nil => simp [splitAtLastMark, hnone]
  | cons c front ih => simp [splitAtLastMark, ih]

namespace FigureLine

variable {line : String} {image back : List Char} (h : FigureLine line image back)
include h

theorem split : splitAtLastMark line.toList = some ('!' :: image, back) := by
  rw [h.marks, ← List.cons_append]
  exact splitAtLastMark_append h.last _

theorem accepted : BlockReader.figure.accepts line = true := by
  have hlen : image.length ≠ 0 := by simpa using h.image_ne_nil
  have hsplit := h.split
  simp only [BlockReader.accepts]
  rw [hsplit, h.marks]
  simp only [List.length_cons, gt_iff_lt, decide_eq_true_eq]
  omega

theorem figureLine_eq : figureLine line.toList = (image, back) := by
  rw [figureLine, h.split]
  rfl

theorem mem_line {c : Char} (hc : c ∈ image ∨ c ∈ back) : c ∈ line.toList := by
  rw [h.marks]
  rcases hc with hc | hc <;> simp [hc]

end FigureLine

/-- The reader of figures accepts just the lines that start a figure. -/
theorem accepts_figure_iff (line : String) :
    BlockReader.figure.accepts line = true ↔ ∃ image back, FigureLine line image back := by
  constructor
  · intro h
    simp only [BlockReader.accepts] at h
    split at h
    · rename_i rest front back hline hsplit
      rw [decide_eq_true_eq] at h
      obtain ⟨hcs, hback⟩ := splitAtLastMark_some hsplit
      rw [hline] at hcs
      -- the last mark is behind the second character, so the first one is in front of it
      obtain ⟨c, image, rfl⟩ : ∃ c image, front = c :: image := by
        cases front with
        | nil => simp at h
        | cons c image => exact ⟨c, image, rfl⟩
      obtain ⟨rfl, hrest⟩ := List.cons.inj hcs
      refine ⟨image, back, by rw [hline, hrest]; rfl, hback, fun hi => ?_⟩
      simp [hi] at h
    · cases h
  · rintro ⟨image, back, h⟩
    exact h.accepted

/-! ## Captions -/

theorem trimChars_trimChars (cs : List Char) :
    Text.trimChars (Text.trimChars cs) = Text.trimChars cs :=
  (Text.trimChars_trimmed cs).trimChars

theorem captionFirst_eq (back : List Char) :
    captionFirst back = String.ofList (captionStart back) := by
  unfold captionFirst captionStart
  split
  · rename_i rest hrest
    simp [hrest]
  · rename_i hno
    have hp : ['\\', '\\'].isPrefixOf (Text.trimChars back) = false := by
      rw [Bool.eq_false_iff]
      intro hp
      obtain ⟨rest, hrest⟩ := List.isPrefixOf_iff_prefix.mp hp
      exact hno rest hrest.symm
    simp [hp, trimChars_trimChars]

theorem neat_of_trimmed {cs : List Char} (h : ∀ c ∈ cs, Text.isTerminator c = false)
    (hne : String.ofList (Text.trimChars cs) ≠ "") :
    Text.Neat (String.ofList (Text.trimChars cs)) := by
  have hneat := Text.neat_trim (s := String.ofList cs) (by rwa [String.toList_ofList])
  rw [Text.trim, String.toList_ofList] at hneat
  exact hneat hne

theorem captionFirst_neat {back : List Char} (h : ∀ c ∈ back, Text.isTerminator c = false)
    (hne : captionFirst back ≠ "") : Text.Neat (captionFirst back) := by
  refine neat_of_trimmed (fun c hc => h c (Text.mem_of_mem_trimChars ?_)) hne
  split at hc
  · exact List.mem_of_mem_drop hc
  · exact hc

section
variable {line : String} {rest : List String}
  (hbare : ∀ l ∈ line :: rest, ∀ c ∈ l.toList, Text.isTerminator c = false)
include hbare

theorem neat_map_trim : ∀ p ∈ (line :: rest).map Text.trim, p ≠ "" → Text.Neat p := by
  intro p hp hne
  obtain ⟨l, hl, rfl⟩ := List.mem_map.mp hp
  exact Text.neat_trim (hbare l hl) hne

theorem captionParts_neat {image back : List Char} (h : FigureLine line image back) :
    ∀ p ∈ captionFirst back :: rest.map Text.trim, p ≠ "" → Text.Neat p := by
  intro p hp hne
  rcases List.mem_cons.mp hp with rfl | hp
  · exact captionFirst_neat (fun c hc => hbare line List.mem_cons_self c (h.mem_line (.inr hc))) hne
  · exact neat_map_trim hbare p (List.mem_cons_of_mem _ hp) hne

end

theorem captionOf_eq {parts : List String} (h : ∀ p ∈ parts, p ≠ "" → Text.Neat p) :
    captionOf parts =
      if Text.isBlankText (joinParts parts) then none else some (joinParts parts) := by
  have hblank : parts.all (· = "") = Text.isBlankText (joinParts parts) := by
    rw [Bool.eq_iff_iff, joinParts_blank_iff h, List.all_eq_true]
    simp
  rw [captionOf, hblank, joinParts]

theorem captionOf_neat {parts : List String} (h : ∀ p ∈ parts, p ≠ "" → Text.Neat p) :
    ∀ t ∈ captionOf parts, Text.Neat t := by
  intro t ht
  unfold captionOf at ht
  split at ht
  · cases ht
  · rename_i hall
    obtain rfl := Option.some.inj ht
    refine joinParts_neat h ?_
    simpa using hall

/-! ## Runs of lines as blocks -/

section
variable {line : String} {rest : List String}
  (hbare : ∀ l ∈ line :: rest, ∀ c ∈ l.toList, Text.isTerminator c = false)
include hbare

theorem figure_neat {image back : List Char} (h : FigureLine line image back) :
    (Block.figure (String.ofList image)
      (captionOf (captionFirst back :: rest.map Text.trim))).Neat := by
  refine ⟨⟨?_, fun c hc => ?_⟩, captionOf_neat (captionParts_neat hbare h)⟩
  · rw [Ne, String.ofList_eq_empty_iff]
    exact h.image_ne_nil
  · rw [String.toList_ofList] at hc
    exact hbare line List.mem_cons_self c (h.mem_line (.inl hc))

variable (hf : isFilled line = true)
include hf

theorem paragraph_neat : (Block.paragraph (joinParts ((line :: rest).map Text.trim))).Neat := by
  refine joinParts_neat (neat_map_trim hbare) ⟨Text.trim line, ?_, trim_ne_empty_of_filled hf⟩
  exact List.mem_map_of_mem List.mem_cons_self

/-- The usual readers make of a run the block that it is. -/
theorem readRun?_usual :
    ∃ b, readRun? BlockReader.usual (line :: rest) = some b ∧
      BlockOf (line :: rest) b ∧ b.Neat := by
  have hpar : BlockReader.paragraph.accepts line = true := hf
  cases hfig : BlockReader.figure.accepts line with
  | true =>
    obtain ⟨image, back, h⟩ := (accepts_figure_iff line).mp hfig
    refine ⟨_, ?_, .figure h, figure_neat hbare h⟩
    rw [captionOf_eq (captionParts_neat hbare h), captionFirst_eq]
    simp [readRun?, BlockReader.usual, hfig, BlockReader.block, h.figureLine_eq]
  | false =>
    refine ⟨_, ?_, .paragraph fun image back h => ?_, paragraph_neat hbare hf⟩
    · simp [readRun?, BlockReader.usual, hfig, hpar, BlockReader.block, joinParts]
    · rw [h.accepted] at hfig
      cases hfig

end

theorem readRun?_usual_all (ls : List String)
    (hbare : ∀ l ∈ ls, ∀ c ∈ l.toList, Text.isTerminator c = false) :
    ∃ blocks,
      List.Forall₂ (fun run b => readRun? BlockReader.usual run = some b) (lineRuns ls) blocks ∧
      List.Forall₂ BlockOf (lineRuns ls) blocks ∧ ∀ b ∈ blocks, b.Neat := by
  induction ls using lines_induction with
  | nil => exact ⟨[], .nil, .nil, fun _ hb => nomatch hb⟩
  | blank line rest hf ih =>
    rw [lineRuns_blank hf]
    exact ih fun l hl => hbare l (List.mem_cons_of_mem _ hl)
  | filled line rest hf ih =>
    obtain ⟨blocks, hread, hblocks, hneat⟩ := ih fun l hl =>
      hbare l (List.mem_cons_of_mem _ ((List.dropWhile_suffix _).mem (List.mem_of_mem_tail hl)))
    have hrun : ∀ l ∈ line :: rest.takeWhile isFilled, ∀ c ∈ l.toList,
        Text.isTerminator c = false := by
      intro l hl
      refine hbare l ?_
      rcases List.mem_cons.mp hl with rfl | hl
      · exact List.mem_cons_self
      · exact List.mem_cons_of_mem _ ((List.takeWhile_prefix _).mem hl)
    obtain ⟨b, hb, hof, hn⟩ := readRun?_usual hrun hf
    rw [lineRuns_filled hf]
    exact ⟨b :: blocks, .cons hb hread, .cons hof hblocks, List.forall_mem_cons.mpr ⟨hn, hneat⟩⟩

/-- **The blocks of a page.** A page is read without fault and to its last line as one block for
each maximal run of lines that are not blank, in order. Captions and paragraphs are not empty, have
no blanks around them and hold no terminator, and no image is empty. -/
theorem readBlocks_usual (t : String) :
    ∃ blocks c, readBlocks BlockReader.usual (.ofText t) = .ok (blocks, c) ∧
      c.lineNumber = (Text.lines t).length ∧
      List.Forall₂ BlockOf (lineRuns (Text.lines t)) blocks ∧ ∀ b ∈ blocks, b.Neat := by
  obtain ⟨blocks, hread, hof, hneat⟩ :=
    readRun?_usual_all (Text.lines t) fun _ hl => Text.lines_bare hl
  obtain ⟨c, hc, hn⟩ := readBlocks_of_runs (c := .ofText t) hread
  refine ⟨blocks, c, hc, ?_, hof, hneat⟩
  rw [hn, Cursor.total]
  simp [Cursor.ofText]

end EventMarkup.Wiki
