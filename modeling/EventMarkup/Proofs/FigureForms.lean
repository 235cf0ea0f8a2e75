import EventMarkup.Proofs.Accepted
import EventMarkup.Proofs.Lookup
import EventMarkup.Proofs.PageMarkup

/-!
# One image, two conventions

A block writes its figure piece by piece by the legacy convention: the start of a tag, a source, the
caption as alternative text, the end of the tag. Graphics outside a figure write a whole tag. Line
endings are made uniform in each piece, and the text of a piece is escaped, so it is not plain that
the two agree, whatever is in the image, the caption and the qualifier.

* `Wiki.join_figure`: made uniform one by one, the pieces are the tag made uniform at once.
* `figure_forms_agree`: both ways write the same, and the block leaves nothing of the figure.
-/
namespace EventMarkup

open Render Wiki

theorem Style.admitted_single {st : Style} {c : Scope} {name : String} {v : Value}
    (h : st.lets c name = true) :
    st.admitted c (.ofList [(name, v)]) = .ofList [(name, v.toText)] := by
  unfold lets at h
  unfold admitted
  cases hnames : st.allowed c with
  | none => rfl
  | some names =>
    rw [hnames] at h
    have hkept : [(name, v.toText)].filter (fun e => names.contains e.1) = [(name, v.toText)] :=
      List.filter_cons_of_pos h
    exact OrderedMap.ext hkept

namespace Wiki

/-- The attributes of an image with a caption as alternative text. -/
def imageSet (image : String) : Option String → Attributes
  | none => (∅ : Attributes).insert "src" image
  | some caption => ((∅ : Attributes).insert "src" image).insert "alt" caption

/-- A caption as the attributes that a caller gives. -/
def altMapping : Option String → Mapping
  | none => ∅
  | some caption => .ofList [("alt", .text caption)]

theorem markup_figure (q : Option String) (image : String) (caption : Option String) :
    (Block.figure image caption).markup q = Tag.single q "img" (imageSet image caption) := by
  have hsource : Tag.attributeText "src" image = " src=\"" ++ Text.escape image ++ "\"" := rfl
  have halt : Tag.attributes (imageSet image caption) =
      " src=\"" ++ Text.escape image ++ "\"" ++ altText caption := by
    cases caption with
    | none =>
      rw [altText, String.append_empty, ← hsource]
      exact String.append_empty ..
    | some c =>
      have hcaption : Tag.attributeText "alt" c = altText (some c) := rfl
      rw [← hsource, ← hcaption]
      exact congrArg _ (String.append_empty ..)
  simp only [Block.markup, Tag.single, halt, String.append_assoc]

/-- A caption may begin with half a line ending, but a quote stands before it. -/
theorem join_altPieces_all (e : Text.LineEnding) (caption : Option String) :
    String.join ((altPieces caption).map (Text.normalize e)) =
      Text.normalize e (altText caption) := by
  cases caption with
  | none => rfl
  | some c =>
    have hstart := Text.normalize_oneLine e (s := " alt=\"") (by decide)
    have hend := Text.normalize_oneLine e (s := "\"") (by decide)
    have hwhole : Text.normalize e (" alt=\"" ++ (Text.escape c ++ "\"")) =
        " alt=\"" ++ (Text.normalize e (Text.escape c) ++ "\"") := by
      rw [Text.normalize_oneLine_append e (by decide), Text.normalize_append e _ (by decide), hend]
    simp only [altPieces, altText, List.map_cons, List.map_nil, String.join_cons, String.join_nil,
      String.append_empty, String.append_assoc, hwhole, hstart, hend]

theorem altText_head (caption : Option String) :
    (altText caption ++ " />").toList.head? ≠ some '\n' := by
  cases caption with
  | none => decide
  | some c => simp [altText]

theorem join_figure (st : Style) {s : RenderState} (hs : s.headMode = false) (image : String)
    (caption : Option String) :
    String.join ((Render.output st s (Block.figure image caption).events).map
        (Text.normalize st.lineEnding)) =
      Text.normalize st.lineEnding (Tag.single st.qualifier "img" (imageSet image caption)) := by
  have hclose : Text.normalize st.lineEnding (altText caption ++ " />") =
      Text.normalize st.lineEnding (altText caption) ++ Text.normalize st.lineEnding " />" :=
    Text.normalize_append _ _ (by decide)
  have hsource : Text.normalize st.lineEnding
      (" src=\"" ++ Text.escape image ++ "\"" ++ (altText caption ++ " />")) =
        Text.normalize st.lineEnding (" src=\"" ++ Text.escape image ++ "\"") ++
          Text.normalize st.lineEnding (altText caption ++ " />") :=
    Text.normalize_append _ _ (altText_head caption)
  have hopen : Text.normalize st.lineEnding ("<" ++ Tag.qualified st.qualifier "img" ++
      (" src=\"" ++ Text.escape image ++ "\"" ++ (altText caption ++ " />"))) =
        Text.normalize st.lineEnding ("<" ++ Tag.qualified st.qualifier "img") ++
          Text.normalize st.lineEnding
            (" src=\"" ++ Text.escape image ++ "\"" ++ (altText caption ++ " />")) :=
    Text.normalize_append _ _ (by simp)
  have hmarkup : Tag.single st.qualifier "img" (imageSet image caption) =
      "<" ++ Tag.qualified st.qualifier "img" ++
        (" src=\"" ++ Text.escape image ++ "\"" ++ (altText caption ++ " />")) := by
    rw [← markup_figure, Block.markup]
    simp only [String.append_assoc]
  rw [hmarkup, hopen, hsource, hclose, output_figure st hs]
  simp only [List.map_append, List.map_cons, List.map_nil, String.join_append, String.join_cons,
    String.join_nil, join_altPieces_all, String.append_assoc, String.append_empty]

theorem transitions_figure (st : Style) {s : RenderState} (hs : s.headMode = false)
    (image : String) (caption : Option String) :
    transitions st s (Block.figure image caption).events =
      { s with
        figureMode := none
        captionMode := if caption.isSome then none else s.captionMode } := by
  cases caption with
  | none => rfl
  | some c => simp [transitions, Block.events, captionEvents, transition, hs]

theorem figureGraphics_pieces (st : Style) {s : RenderState} (hs : s.figureMode = none)
    (image : String) (caption : Option String) (halt : caption.isSome → st.lets .image "alt") :
    (respond st s (.figureGraphics image (some (altMapping caption)))).pieces =
      [Tag.single st.qualifier "img" (imageSet image caption)] := by
  have hset : imageAttributes st image (some (altMapping caption)) = imageSet image caption := by
    cases caption with
    | none =>
      rw [imageAttributes, Option.getD_some, altMapping, Style.admitted_empty]
      rfl
    | some c =>
      rw [imageAttributes, Option.getD_some, altMapping, Style.admitted_single (halt rfl)]
      rfl
  simp [respond, figureGraphics, RenderState.inFigure, hs, hset, Style.singleTag, Reaction.write]

end Wiki

/-- **One image, two conventions.** Outside a head, with an open buffer, a figure block always goes
well, whatever else is open. What comes into the buffer is one image tag with the image as its
source and the caption, if there is one, as its alternative text, its line endings made uniform. The
state is as before, but no figure is open and, with a caption, no caption. With the same style,
graphics that are sent outside a figure with the caption as their alternative text write the same,
if the style lets that through. -/
theorem figure_forms_agree {k : Sink} (hk : k.Ready) (hs : k.state.headMode = false)
    (image : String) (caption : Option String) :
    let es := (Block.figure image caption).events
    let tag := Tag.single k.style.qualifier "img" (imageSet image caption)
    (∀ x ∈ steps Sink.event k es, x.outcome.result = .ok ()) ∧
      (final Sink.event k es).destination.text =
        k.destination.text ++ Text.normalize k.style.lineEnding tag ∧
      (final Sink.event k es).state =
        { k.state with
          figureMode := none
          captionMode := if caption.isSome then none else k.state.captionMode } ∧
      ∀ k' : Sink, k'.Ready → k'.style = k.style → k'.state.figureMode = none →
        (caption.isSome → k.style.lets .image "alt" = true) →
        let e := .figureGraphics image (some (altMapping caption))
        (k'.event e).result = .ok () ∧ (k'.event e).after.destination.text =
          k'.destination.text ++ Text.normalize k.style.lineEnding tag := by
  intro es tag
  have hcells (x : CellKind) (m : Mapping) (w : Value) : .cell x m w ∉ es := by
    have := not_cell_mem_events [.figure image caption] x m w
    rwa [events, List.flatMap_singleton] at this
  obtain ⟨hok, -, htext⟩ := hk.run (columnsFound_of_no_cell hcells)
  rw [join_figure k.style hs] at htext
  refine ⟨hok, htext, ?_, fun k' hk' hstyle hfigure halt => ?_⟩
  · rw [Sink.final_state hok, transitions_figure k.style hs]
  · obtain ⟨hresult, -, hwritten⟩ := hk'.event (e := .figureGraphics image _) rfl
    rw [hstyle, figureGraphics_pieces k.style hfigure image caption halt] at hwritten
    rw [List.map_singleton, String.join_cons, String.join_nil, String.append_empty] at hwritten
    exact ⟨hresult, hwritten⟩

/-- In a verbatim block, with a figure and its caption open, and with line endings in the qualifier,
the image and the caption. -/
theorem brokenLines_agree :
    let k := interrupted
    let es := (Block.figure "a\n<b" (some "\n c\r")).events
    let tag := "<x\r\ny:img src=\"a\r\n&lt;b\" alt=\"\r\n c\r\n\" />"
    (∀ x ∈ steps Sink.event k es, x.outcome.result = .ok ()) ∧
      (final Sink.event k es).destination.text = k.destination.text ++ tag ∧
      ((Sink.inMemory twoLineOptions).event (.figureGraphics "a\n<b"
        (some (.ofList [("alt", .text "\n c\r")])))).after.value = .ok tag := by
  have hready : interrupted.Ready :=
    ((Sink.inMemory_ready twoLineOptions).run
      (columnsFound_of_nonneg (Int.le_refl 0) _)).2.1
  have htag : Text.normalize interrupted.style.lineEnding (Tag.single interrupted.style.qualifier
      "img" (imageSet "a\n<b" (some "\n c\r"))) =
        "<x\r\ny:img src=\"a\r\n&lt;b\" alt=\"\r\n c\r\n\" />" := by decide
  obtain ⟨hok, htext, -, hgraphics⟩ :=
    figure_forms_agree hready rfl "a\n<b" (some "\n c\r")
  have hplain := Sink.inMemory_ready twoLineOptions
  obtain ⟨-, hwritten⟩ := hgraphics (.inMemory twoLineOptions) hplain rfl rfl (fun _ => rfl)
  rw [htag] at htext hwritten
  obtain ⟨-, hafter, -⟩ := hplain.event (e := .figureGraphics "a\n<b"
    (some (.ofList [("alt", .text "\n c\r")]))) rfl
  exact ⟨hok, htext, hafter.value.trans (congrArg Except.ok hwritten)⟩

end EventMarkup
