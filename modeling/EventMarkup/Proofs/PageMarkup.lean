import EventMarkup.Proofs.Blocks
import EventMarkup.Proofs.LineEndings
import EventMarkup.Proofs.Lookup
import EventMarkup.Proofs.Output

/-!
# The markup of a page

A page that is read into a session with an open buffer always goes well, whatever is open there: the
blocks of the page come into the buffer as their markup (`Block.markup`), the guards are left as
they were, and the sink alone does the same (`page_written`).

* `Block.acceptAll`: every guard lets the events of a block pass and is then as before.
* `Block.output`: outside a head, the pieces written for a block make its markup. The only line
  endings in them are those of the qualifier.
-/
namespace EventMarkup

open Render

theorem Render.textTags_empty (s : RenderState) : textTags s ∅ = [] := by
  unfold textTags
  split <;> rfl

namespace Wiki

/-! ## Markup -/

/-- The alternative text of a figure, as an attribute. -/
def altText : Option String → String
  | none => ""
  | some caption => " alt=\"" ++ Text.escape caption ++ "\""

/-- The markup of a block, with a qualifier for its tag names. -/
def Block.markup (q : Option String) : Block → String
  | .paragraph t =>
    "<" ++ Tag.qualified q "p" ++ ">" ++ Text.escape t ++ "</" ++ Tag.qualified q "p" ++ ">"
  | .figure image caption =>
    "<" ++ Tag.qualified q "img" ++ " src=\"" ++ Text.escape image ++ "\"" ++ altText caption ++
      " />"

def markup (q : Option String) (blocks : List Block) : String :=
  String.join (blocks.map (Block.markup q))

/-! ## Guards -/

theorem Block.acceptAll (b : Block) (g : Guard) : g.acceptAll b.events = .ok g := by
  cases b with
  | paragraph t => rfl
  | figure image caption => cases caption <;> rfl

theorem acceptAll_events (blocks : List Block) (g : Guard) :
    g.acceptAll (events blocks) = .ok g := by
  induction blocks with
  | nil => rfl
  | cons b blocks ih =>
    have hfirst := b.acceptAll g
    rw [Guard.acceptAll] at hfirst ih ⊢
    rw [events, List.flatMap_cons, List.foldlM_append, hfirst]
    exact ih

/-! ## Output -/

theorem isOneLine_escape {t : String} (h : ∀ c ∈ t.toList, Text.isTerminator c = false) :
    Text.isOneLine (Text.escape t).toList = true := by
  rw [Text.escape, String.toList_ofList, Text.escapeChars, Text.isOneLine, List.all_flatMap,
    List.all_eq_true]
  intro c hc
  have hlf : c ≠ '\n' := fun he => absurd (h c hc) (by rw [he]; decide)
  have hcr : c ≠ '\r' := fun he => absurd (h c hc) (by rw [he]; decide)
  unfold Text.entity
  repeat' split
  all_goals first | decide | simp [hlf, hcr]

theorem normalize_qualified (e : Text.LineEnding) (q : Option String) {n : String}
    (hn : Text.isOneLine n.toList = true) :
    Text.normalize e (Tag.qualified q n) = Tag.qualified (q.map (Text.normalize e)) n := by
  cases q with
  | none => exact Text.normalize_oneLine e hn
  | some p =>
    simp only [Tag.qualified, Option.map_some, Text.normalize_eq_empty_iff]
    split
    · exact Text.normalize_oneLine e hn
    · have hcolon : Text.normalize e (p ++ ":") = Text.normalize e p ++ ":" := by
        rw [Text.normalize_append e p (by decide), Text.normalize_oneLine e (s := ":") (by decide)]
      rw [Text.normalize_append e _ (Text.isOneLine_head hn), hcolon, Text.normalize_oneLine e hn]

theorem normalize_tag (e : Text.LineEnding) (q : Option String) (front n back : String)
    (hf : Text.isOneLine front.toList = true) (hn : Text.isOneLine n.toList = true)
    (hb : Text.isOneLine back.toList = true) :
    Text.normalize e (front ++ Tag.qualified q n ++ back) =
      front ++ Tag.qualified (q.map (Text.normalize e)) n ++ back := by
  rw [Text.normalize_append e _ (Text.isOneLine_head hb), Text.normalize_oneLine_append e hf,
    normalize_qualified e q hn, Text.normalize_oneLine e hb]

def altPieces : Option String → List String
  | none => []
  | some caption => [" alt=\"", Text.escape caption, "\""]

theorem join_altPieces (e : Text.LineEnding) {caption : Option String}
    (h : ∀ t ∈ caption, Text.Neat t) :
    String.join ((altPieces caption).map (Text.normalize e)) = altText caption := by
  cases caption with
  | none => rfl
  | some t =>
    have hstart := Text.normalize_oneLine e (s := " alt=\"") (by decide)
    have htext := Text.normalize_oneLine e (isOneLine_escape (h t rfl).oneLine)
    have hend := Text.normalize_oneLine e (s := "\"") (by decide)
    simp only [altPieces, altText, List.map_cons, List.map_nil, hstart, htext, hend,
      String.join_cons, String.join_nil, String.append_assoc, String.append_empty]

section
variable (st : Style) {s : RenderState} (hs : s.headMode = false)
include hs

theorem output_paragraph (t : String) : Render.output st s (Block.paragraph t).events =
    ["<" ++ Tag.qualified st.qualifier "p" ++ ">", Text.escape t,
      "</" ++ Tag.qualified st.qualifier "p" ++ ">"] := by
  have hempty : Tag.attributes ∅ = "" := rfl
  simp [Block.events, Render.output, respond, transition, Reaction.outsideHead, Reaction.write,
    Render.text, hs, textTags_empty, tagged, Style.startTag, Style.endTag, Tag.start, Tag.finish,
    st.admitted_empty, hempty, Element.tag]

theorem output_figure (image : String) (caption : Option String) :
    Render.output st s (Block.figure image caption).events =
      ["<" ++ Tag.qualified st.qualifier "img", " src=\"" ++ Text.escape image ++ "\""] ++
        altPieces caption ++ [" />"] := by
  cases caption with
  | none =>
    simp [Block.events, Render.output, respond, transition, altPieces, Render.figure,
      Render.figureEnd, Render.figureGraphics, conventionOf, Reaction.noting, Reaction.write,
      Reaction.andThen]
  | some c =>
    simp [Block.events, captionEvents, Render.output, respond, transition, altPieces, Render.figure,
      Render.figureEnd, Render.figureGraphics, Render.figureCaption, Render.figureCaptionEnd,
      conventionOf, captionConvention, Reaction.noting, Reaction.write, Reaction.andThen,
      Render.text, hs, textTags_empty, tagged]

theorem headMode_block (b : Block) : (transitions st s b.events).headMode = false := by
  cases b with
  | paragraph t => simp [transitions, Block.events, transition_eq, hs]
  | figure image caption =>
    cases caption <;> simp [transitions, Block.events, captionEvents, transition_eq, hs]

/-- Outside a head, the pieces written for a block make its markup. -/
theorem Block.output {b : Block} (hb : b.Neat) (e : Text.LineEnding) :
    String.join ((Render.output st s b.events).map (Text.normalize e)) =
      b.markup (st.qualifier.map (Text.normalize e)) := by
  cases b with
  | paragraph t =>
    have hstart := normalize_tag e st.qualifier "<" "p" ">"
      (by decide) (by decide) (by decide)
    have hend := normalize_tag e st.qualifier "</" "p" ">"
      (by decide) (by decide) (by decide)
    have htext := Text.normalize_oneLine e (isOneLine_escape hb.oneLine)
    rw [output_paragraph st hs]
    simp only [List.map_cons, List.map_nil, hstart, hend, htext]
    simp only [Block.markup, String.join_cons, String.join_nil, String.append_assoc,
      String.append_empty]
  | figure image caption =>
    obtain ⟨⟨-, himage⟩, hcaption⟩ := hb
    have hopen := normalize_tag e st.qualifier "<" "img" ""
      (by decide) (by decide) (by decide)
    have hsource : Text.isOneLine (" src=\"" ++ Text.escape image ++ "\"").toList = true := by
      rw [String.toList_append, String.toList_append, Text.isOneLine_append, Text.isOneLine_append,
        isOneLine_escape himage]
      decide
    have halt := join_altPieces e hcaption
    have hend := Text.normalize_oneLine e (s := " />") (by decide)
    rw [String.append_empty, String.append_empty] at hopen
    rw [output_figure st hs]
    simp only [List.map_cons, List.map_nil, List.map_append, List.cons_append, List.nil_append,
      hopen, Text.normalize_oneLine e hsource, hend]
    simp only [Block.markup, String.join_cons, String.join_nil, String.join_append, halt,
      String.append_assoc, String.append_empty]

theorem output_blocks {blocks : List Block} (hb : ∀ b ∈ blocks, b.Neat) (e : Text.LineEnding) :
    String.join ((Render.output st s (events blocks)).map (Text.normalize e)) =
      markup (st.qualifier.map (Text.normalize e)) blocks := by
  induction blocks generalizing s with
  | nil => rfl
  | cons b blocks ih =>
    rw [List.forall_mem_cons] at hb
    have hrest := ih (headMode_block st hs b) hb.2
    have hfirst := Block.output st hs hb.1 e
    rw [events, List.flatMap_cons, output_append, List.map_append, String.join_append, hfirst,
      markup, List.map_cons, String.join_cons]
    exact congrArg _ hrest

end

/-! ## Pages -/

/-- Every page is read, as blocks with neat texts. -/
theorem readBlocks_neat (t : String) :
    ∃ blocks c, readBlocks BlockReader.usual (.ofText t) = .ok (blocks, c) ∧
      ∀ b ∈ blocks, b.Neat := by
  obtain ⟨blocks, hread, -, hneat⟩ :=
    readRun?_usual_all (Text.lines t) fun _ hl => Text.lines_bare hl
  obtain ⟨c, hc, -⟩ := readBlocks_of_runs (c := .ofText t) hread
  exact ⟨blocks, c, hc, hneat⟩

theorem not_cell_mem_events (blocks : List Block) (x : CellKind) (m : Mapping) (w : Value) :
    .cell x m w ∉ events blocks := by
  intro h
  obtain ⟨b, -, hb⟩ := List.mem_flatMap.mp h
  cases b with
  | paragraph t => simp [Block.events] at hb
  | figure image caption => cases caption <;> simp [Block.events, captionEvents] at hb

end Wiki

open Wiki

/-- **The markup of a page.** Into a session outside a head, with an open buffer and any number of
guards, whatever they have open, every page goes without fault. The guards are left as they were,
and the sink as it is left if there are none. What comes into its buffer is the markup of the
blocks; the line endings in it are those of the qualifier, made uniform. So without any in the
qualifier, it is the markup of the blocks as it stands, however lines end. -/
theorem page_written {k : Sink} (hk : k.Ready) (hs : k.state.headMode = false) (t : String) :
    ∃ blocks c k' before, readBlocks BlockReader.usual (.ofText t) = .ok (blocks, c) ∧
      (∀ gs : List Guard, ((⟨gs, k⟩ : Session).page BlockReader.usual t).result = .ok () ∧
        ((⟨gs, k⟩ : Session).page BlockReader.usual t).after = ⟨gs, k'⟩) ∧
      k.value = .ok before ∧
      k'.value = .ok (before ++
        markup (k.style.qualifier.map (Text.normalize k.style.lineEnding)) blocks) ∧
      ((∀ q ∈ k.style.qualifier, Text.isOneLine q.toList = true) →
        k'.value = .ok (before ++ markup k.style.qualifier blocks)) := by
  obtain ⟨blocks, c, hread, hneat⟩ := readBlocks_neat t
  have hc : ColumnsFound k.style k.state (events blocks) :=
    columnsFound_of_no_cell (not_cell_mem_events blocks)
  obtain ⟨hok, hready, htext⟩ := hk.run hc
  rw [output_blocks k.style hs hneat] at htext
  refine ⟨blocks, c, final Sink.event k (events blocks), k.destination.text, hread, fun gs => ?_,
    hk.value, ?_, fun hq => ?_⟩
  · have hg : List.Forall₂ (fun g g' => Guard.acceptAll g (events blocks) = .ok g') gs gs :=
      List.forall₂_same.mpr fun g _ => acceptAll_events blocks g
    obtain ⟨hres, hafter⟩ := Session.events_allAccept hk.vocabulary hg hok
    simp only [Session.page, hread, Outcome.bind]
    exact ⟨hres, hafter⟩
  · rw [hready.value, htext]
  · rw [hready.value, htext, Text.map_normalize_oneLine _ hq]

/-- Options whose qualifier holds a line ending that is not their own. -/
def twoLineOptions : Options :=
  { Options.usual with
    lineEnding := .crlf
    qualifier := some "x\ny"
    qualifier_ok := fun _ h => Option.some.inj h ▸ rfl }

/-- A sink with a verbatim block and a legacy figure open. -/
def interrupted : Sink :=
  final Sink.event (.inMemory twoLineOptions) [.verbatim ∅ true, .figure none, .figureCaption none]

theorem interrupted_written :
    ∃ k' before, (∀ gs : List Guard,
        ((⟨gs, interrupted⟩ : Session).page BlockReader.usual "!a<b.png! c\n\nd").result = .ok () ∧
        ((⟨gs, interrupted⟩ : Session).page BlockReader.usual "!a<b.png! c\n\nd").after =
          ⟨gs, k'⟩) ∧
      interrupted.value = .ok before ∧
      k'.value = .ok (before ++
        "<x\r\ny:img src=\"a&lt;b.png\" alt=\"c\" /><x\r\ny:p>d</x\r\ny:p>") := by
  have hready : interrupted.Ready :=
    ((Sink.inMemory_ready twoLineOptions).run
      (columnsFound_of_nonneg (Int.le_refl 0) _)).2.1
  obtain ⟨blocks, c, k', before, hread, hgs, hbefore, hvalue, -⟩ :=
    page_written hready rfl "!a<b.png! c\n\nd"
  have hblocks : readBlocks BlockReader.usual (.ofText "!a<b.png! c\n\nd") =
      .ok ([.figure "a<b.png" (some "c"), .paragraph "d"],
        ⟨["d", "", "!a<b.png! c"], [], false⟩) := by decide +kernel
  rw [hblocks] at hread
  cases hread
  have hmarkup : markup
      (interrupted.style.qualifier.map (Text.normalize interrupted.style.lineEnding))
      [.figure "a<b.png" (some "c"), .paragraph "d"] =
        "<x\r\ny:img src=\"a&lt;b.png\" alt=\"c\" /><x\r\ny:p>d</x\r\ny:p>" := by decide
  rw [hmarkup] at hvalue
  exact ⟨k', before, hgs, hbefore, hvalue⟩

/-- The line ending in a qualifier is written as all line endings are, not as it stands. -/
theorem twoLineOptions_written :
    ∃ blocks c t, readBlocks BlockReader.usual (.ofText "a") = .ok (blocks, c) ∧
      ((Session.start (.inMemory twoLineOptions) 1).page BlockReader.usual "a").after.sink.value =
        .ok t ∧
      t = "<x\r\ny:p>a</x\r\ny:p>" ∧ t ≠ markup twoLineOptions.qualifier blocks := by
  refine ⟨[.paragraph "a"], ⟨["a"], [], false⟩, "<x\r\ny:p>a</x\r\ny:p>", ?_, ?_, rfl, ?_⟩
  · decide +kernel
  · decide +kernel
  · decide

end EventMarkup
