import EventMarkup.Proofs.LineEndings
import EventMarkup.Proofs.Output
import EventMarkup.Proofs.Parts

/-!
# Angle brackets

No text that a caller gives makes or unmakes markup. The outline of an event keeps what decides its
tags: which event it is, the level of a section, whether a figure's attributes are given, what a
text asks for. Runs with the same outline write the same angle brackets in the same order, whatever
the texts, the attributes and the options (`angles_eq_of_outlines`).

The proof compares a run with the run of its outline, under other options: the two stay in states
with the same modes (`SameModes.step`), and in such states an event and its outline write the same
brackets (`SameModes.sameAngles`).
-/
namespace EventMarkup

open Render

/-! ## Outlines -/

/-- What a text event asks for: its decoration and its vertical alignment, as texts. -/
def Event.askedFor (m : Mapping) : Mapping :=
  .ofList (["decoration", "valign"].filterMap fun n =>
    ((Attributes.ofMapping m).get? n).map fun t => (n, .text t))

/-- An event without the texts and attributes that a caller chooses freely. Raw text and comments
are kept whole. -/
def Event.outline : Event → Event
  | text _ m => text "" (askedFor m)
  | lineBreak _ => lineBreak ∅
  | horizontalRule _ => horizontalRule ∅
  | sectionStart level _ => sectionStart level ∅
  | titleStart level _ => titleStart level ∅
  | elementStart x _ => elementStart x ∅
  | numberedList .. => numberedList none ∅
  | verbatim .. => verbatim ∅ false
  | table _ => table ∅
  | tableRows .. => tableRows none false
  | tableRow _ => tableRow ∅
  | cell k .. => cell k ∅ .absent
  | tableCaption _ => tableCaption ∅
  | figure m => figure (m.map fun _ => ∅)
  | figureGraphics _ m => figureGraphics "" (m.map fun _ => ∅)
  | figureCaption m => figureCaption (m.map fun _ => ∅)
  | link .. => link "" ∅ .absent
  | anchor .. => anchor none ∅
  | e => e

theorem Event.get?_askedFor (m : Mapping) {n : String} (hn : n ∈ ["decoration", "valign"]) :
    (Attributes.ofMapping (askedFor m)).get? n = (Attributes.ofMapping m).get? n := by
  simp only [List.mem_cons, List.not_mem_nil, or_false] at hn
  unfold askedFor
  rcases hn with rfl | rfl <;>
    cases hd : (Attributes.ofMapping m).get? "decoration" <;>
    cases hv : (Attributes.ofMapping m).get? "valign" <;>
    simp only [List.filterMap, hd, hv] <;> rfl

/-! ## The brackets of a text -/

/-- Whether a character is an angle bracket. -/
def isAngle (c : Char) : Bool := c = '<' || c = '>'

def angles (t : String) : List Char := t.toList.filter isAngle

/-- Options that bring no angle bracket into a tag: neither the qualifier nor a name that they let
through holds one. -/
structure Options.Plain (o : Options) : Prop where
  qualifier : ∀ q ∈ o.qualifier, angles q = []
  allowed : ∀ s, ∀ n ∈ o.allowed s, angles n = []

@[simp] theorem angles_append (t u : String) : angles (t ++ u) = angles t ++ angles u := by
  simp [angles]

theorem angles_join (ts : List String) : angles (String.join ts) = ts.flatMap angles := by
  induction ts with
  | nil => rfl
  | cons t ts ih => rw [String.join_cons, angles_append, ih, List.flatMap_cons]

@[simp] theorem angles_escape (t : String) : angles (Text.escape t) = [] := by
  have hb := List.all_eq_true.mp (escape_bare t)
  refine List.filter_eq_nil_iff.mpr fun c hc hangle => ?_
  have hbare := hb c hc
  simp_all [isBareChar, isAngle]

theorem angles_attributes {a : Attributes} (ha : a.Named (angles · = [])) :
    angles (Tag.attributes a) = [] := by
  refine List.filter_eq_nil_iff.mpr fun c hc hangle => ?_
  rcases Tag.mem_attributes hc with hmark | ⟨n, hn, hname⟩ | ⟨v, hvalue⟩
  · have hplain : [' ', '=', '\x22'].all (!isAngle ·) := by decide
    have hother : (!isAngle c) = true := List.all_eq_true.mp hplain c hmark
    rw [hangle] at hother
    cases hother
  · exact List.filter_eq_nil_iff.mp (ha n hn) c hname hangle
  · exact List.filter_eq_nil_iff.mp (angles_escape v) c hvalue hangle

theorem angles_normalize (e : Text.LineEnding) (t : String) :
    angles (Text.normalize e t) = angles t :=
  Text.filter_normalize (by decide) (by decide) e t

/-- The brackets of a part, whatever its attributes are. -/
def Part.angles : Part → List Char
  | text t | raw t => EventMarkup.angles t
  | comment t => EventMarkup.angles (commentText t)
  | imageStart => ['<']
  | start n _ | single n _ | finish n => '<' :: (EventMarkup.angles n ++ ['>'])

namespace Options.Plain

variable {o : Options} (ho : o.Plain)
include ho

theorem names : o.Names (angles · = []) := ⟨ho.allowed, by decide⟩

theorem angles_qualified (n : String) : angles (Tag.qualified o.style.qualifier n) = angles n := by
  have hstyle : o.style.qualifier = o.qualifier := rfl
  rw [hstyle]
  cases hqual : o.qualifier with
  | none => rfl
  | some q =>
    simp only [Tag.qualified]
    split
    · rfl
    · rw [angles_append, angles_append, ho.qualifier q hqual]
      rfl

theorem angles_write {x : Part} (hx : x.Named (angles · = [])) :
    angles (x.write o.style.qualifier) = x.angles := by
  cases x with
  | start n a | single n a =>
    simp only [Part.write, Tag.start, Tag.single, angles_append, ho.angles_qualified,
      angles_attributes hx]
    simp [angles, isAngle, Part.angles]
  | finish n =>
    simp only [Part.write, Tag.finish, angles_append, ho.angles_qualified]
    simp [angles, isAngle, Part.angles]
  | imageStart =>
    rw [Part.write, angles_append, ho.angles_qualified]
    rfl
  | text | comment | raw => rfl

theorem angles_respond {s : RenderState} (hs : ∀ a ∈ s.pendingTable, a.Named (angles · = []))
    (e : Event) : (respond o.style s e).pieces.flatMap angles =
      (parts o.style s e).flatMap Part.angles := by
  rw [respond_parts, List.flatMap_map]
  exact List.flatMap_congr fun x hx => ho.angles_write (parts_named ho.names hs e x hx)

end Options.Plain

/-! ## One event -/

/-- Pieces with the same angle brackets. -/
def SameAngles (ts us : List String) : Prop := ts.flatMap angles = us.flatMap angles

/-- States that differ in nothing that decides tags, with attributes waiting for the rows of a table
that have plain names. -/
structure SameModes (s u : RenderState) : Prop where
  headMode : s.headMode = u.headMode
  verbatimMode : s.verbatimMode = u.verbatimMode
  figureMode : s.figureMode = u.figureMode
  captionMode : s.captionMode = u.captionMode
  pending : ∀ a ∈ s.pendingTable, a.Named (angles · = [])
  pending' : ∀ a ∈ u.pendingTable, a.Named (angles · = [])

theorem SameModes.initial : SameModes .initial .initial where
  headMode := rfl
  verbatimMode := rfl
  figureMode := rfl
  captionMode := rfl
  pending := fun _ ha => nomatch ha
  pending' := fun _ ha => nomatch ha

namespace SameModes

variable {o o' : Options} (ho : o.Plain) (ho' : o'.Plain) {s u : RenderState} (h : SameModes s u)
include h

theorem textTags_askedFor (m : Mapping) : textTags u (Event.askedFor m) = textTags s m := by
  have hg : ∀ n ∈ ["decoration", "valign"], ∀ t,
      (Attributes.ofMapping (Event.askedFor m)).has n t = (Attributes.ofMapping m).has n t := by
    intro n hn t
    rw [Attributes.has, Event.get?_askedFor m hn]
    rfl
  simp only [textTags, decorations, ← h.verbatimMode, hg "decoration" (by decide),
    hg "valign" (by decide)]

include ho ho' in
/-- An event and its outline write the same brackets, in states that differ in nothing that
decides tags. -/
theorem sameAngles (e : Event) :
    SameAngles (respond o.style s e).pieces (respond o'.style u e.outline).pieces := by
  rw [SameAngles, ho.angles_respond h.pending, ho'.angles_respond h.pending']
  -- the brackets of a tag are told by its name alone, and outlines keep the names of tags; which
  -- tags there are depends on the modes
  cases e with
  | text t m =>
    simp only [Event.outline, parts, Part.outsideHead, h.textTags_askedFor, ← h.headMode]
    split
    · rfl
    · simp [taggedParts, List.flatMap_map, Part.angles]
  | figure m => cases m <;> rfl
  | figureEnd => simp only [Event.outline, parts, ← h.figureMode]
  | figureGraphics source m =>
    have hinside : u.inFigure = s.inFigure := by
      rw [RenderState.inFigure, RenderState.inFigure, h.figureMode]
    simp only [Event.outline, parts, hinside, Option.isNone_map, ← h.figureMode]
    split
    · simp [Part.angles]
    · cases s.inFigure <;> rfl
  | figureCaption m =>
    simp only [Event.outline, parts, Option.isNone_map, ← h.figureMode]
    split <;> rfl
  | figureCaptionEnd => simp only [Event.outline, parts, ← h.captionMode]
  | sectionStart level | titleStart level =>
    simp only [Event.outline, parts, Part.outsideHead, ← h.headMode]
    cases s.headMode <;> cases inRange level <;> rfl
  | lineBreak | horizontalRule | elementStart | numberedList | verbatim | link | anchor =>
    simp only [Event.outline, parts, Part.outsideHead, ← h.headMode]
    cases s.headMode <;> rfl
  | nonBreakingSpace | sectionEnd | titleEnd | elementEnd | numberedListEnd | verbatimEnd | linkEnd
  | anchorEnd => simp only [Event.outline, parts, Part.outsideHead, ← h.headMode]
  | _ => rfl

include ho ho' in
theorem step (e : Event) :
    SameModes (transition o.style s e) (transition o'.style u e.outline) where
  headMode := by
    simp only [transition_eq, h.headMode]
    cases e <;> rfl
  verbatimMode := by
    simp only [transition_eq, h.headMode, h.verbatimMode]
    cases e <;> rfl
  figureMode := by
    simp only [transition_eq, h.figureMode]
    cases e with
    | figure m => cases m <;> rfl
    | _ => rfl
  captionMode := by
    simp only [transition_eq, captionConvention, h.figureMode, h.captionMode]
    cases e with
    | figureCaption m => simp only [Event.outline, Option.isNone_map]
    | _ => rfl
  pending := ho.names.pendingTable h.pending e
  pending' := ho'.names.pendingTable h.pending' e.outline

include ho ho' in
theorem output (es : List Event) :
    SameAngles (Render.output o.style s es) (Render.output o'.style u (es.map Event.outline)) := by
  induction es generalizing s u with
  | nil => rfl
  | cons e es ih =>
    -- the states part with the first event, but for their modes
    have hfirst := h.sameAngles ho ho' e
    have hrest := ih (h.step ho ho' e)
    rw [SameAngles, Render.output, List.map_cons, Render.output, List.flatMap_append,
      List.flatMap_append, hfirst, hrest]

end SameModes

/-! ## Two runs -/

/-- The brackets in a buffer are those of the pieces written, in order. -/
theorem angles_run (o : Options) (es : List Event) :
    ∃ t, (final Sink.event (.inMemory o) es).value = .ok t ∧
      angles t = (Render.output o.style .initial es).flatMap angles := by
  have hk := Sink.inMemory_ready o
  have hc : ColumnsFound (Sink.inMemory o).style (Sink.inMemory o).state es :=
    columnsFound_of_nonneg (Int.le_refl 0) es
  obtain ⟨-, hready, ht⟩ := hk.run hc
  refine ⟨_, hready.value, ?_⟩
  rw [ht, angles_append, angles_join, List.flatMap_map]
  simp only [angles_normalize]
  rfl

/-- **Texts neither make nor unmake markup.** Two runs with the same outline write the same angle
brackets in the same order, under any options that bring none into a tag. -/
theorem angles_eq_of_outlines {o o' : Options} (ho : o.Plain) (ho' : o'.Plain) {es es' : List Event}
    (h : es.map Event.outline = es'.map Event.outline) :
    ∃ t t', (final Sink.event (.inMemory o) es).value = .ok t ∧
      (final Sink.event (.inMemory o') es').value = .ok t' ∧ angles t = angles t' := by
  obtain ⟨t, ht, hangles⟩ := angles_run o es
  obtain ⟨t', ht', hangles'⟩ := angles_run o' es'
  refine ⟨t, t', ht, ht', ?_⟩
  calc angles t = (Render.output o.style .initial es).flatMap angles := hangles
    _ = (Render.output o'.style .initial (es.map Event.outline)).flatMap angles :=
      SameModes.initial.output ho ho' es
    _ = (Render.output o'.style .initial (es'.map Event.outline)).flatMap angles := by rw [h]
    _ = (Render.output o'.style .initial es').flatMap angles :=
      (SameModes.initial.output ho' ho' es').symm
    _ = angles t' := hangles'.symm

def note : List Event :=
  [.sectionStart 1 ∅, .text "See " (.ofList [("decoration", .text "underline")]),
    .link "http://a.b" ∅ .absent, .text "this" ∅, .linkEnd, .figure none,
    .figureGraphics "a.png" none, .figureCaption none, .text "A" ∅, .figureCaptionEnd, .figureEnd,
    .sectionEnd 1]

/-- A document with the outline of the note, and texts and attributes meant to be read as tags. -/
def forgedNote : List Event :=
  [.sectionStart 1 (.ofList [("<b>", .text "<b>"), ("class", .text "\x22><b>")]),
    .text "</u><b>" (.ofList [("<", .integer 1), ("decoration", .text "underline")]),
    .link "\x22><script>" (.ofList [("title", .text "\x22/>")]) (.text ">"), .text "</a>" ∅,
    .linkEnd, .figure none, .figureGraphics "\x22 /><img" none, .figureCaption none,
    .text "\x22 /><p>" ∅, .figureCaptionEnd, .figureEnd, .sectionEnd 1]

/-- Options with classes meant to be read as tags. -/
def forgedOptions : Options :=
  { Options.usual with sectionClass := .text "\x22><p>", externalLinkClass := .text "</a><a>" }

theorem forgedNote_angles :
    ∃ t t', (final Sink.event (.inMemory .usual) note).value = .ok t ∧
      (final Sink.event (.inMemory forgedOptions) forgedNote).value = .ok t' ∧
      angles t = angles t' := by
  have ho : Options.usual.Plain := ⟨fun _ hq => (nomatch hq), fun s => by cases s <;> decide⟩
  have ho' : forgedOptions.Plain := ⟨fun _ hq => (nomatch hq), fun s => by cases s <;> decide⟩
  exact angles_eq_of_outlines ho ho' (by decide)

end EventMarkup
