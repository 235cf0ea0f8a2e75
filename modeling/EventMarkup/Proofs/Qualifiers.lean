import EventMarkup.Proofs.LineEndings
import EventMarkup.Proofs.Output
import EventMarkup.Proofs.TagNames

/-!
# Qualifiers

A qualifier shows in the names of tags and nowhere else. Text, attribute values and classes bring no
bracket into the output, so each opening bracket starts a tag: what a sink writes with a qualifier
is what it writes without one, marked after each opening bracket (`qualifier_only_marks`). The
events of a run have the same results and lead through the same states.

Each piece has one of three forms, which tell how it is marked (`Marked`): text, or a tag that opens
or closes. The parts of an event have these forms (`Part.marked`), unless it writes raw text or a
comment.
-/
namespace EventMarkup

open Render

/-! ## Marks after brackets -/

namespace Text

/-- The characters with a mark after each opening bracket, or after the slash that follows it. -/
def markChars (mark : List Char) : List Char → List Char
  | '<' :: '/' :: cs => '<' :: '/' :: (mark ++ markChars mark cs)
  | '<' :: cs => '<' :: (mark ++ markChars mark cs)
  | c :: cs => c :: markChars mark cs
  | [] => []

/-- The text with a mark after each opening bracket, or after the slash that follows it. -/
def markTags (mark t : String) : String := String.ofList (markChars mark.toList t.toList)

theorem markChars_append (mark : List Char) {cs : List Char} (h : '<' ∉ cs) (ds : List Char) :
    markChars mark (cs ++ ds) = cs ++ markChars mark ds := by
  induction cs with
  | nil => rfl
  | cons c cs ih =>
    rw [List.mem_cons, not_or] at h
    rw [List.cons_append, markChars, ih h.2, List.cons_append]
    · rintro rest rfl
      exact absurd rfl h.1
    · rintro rfl
      exact absurd rfl h.1

theorem markChars_opening (mark : List Char) {cs : List Char} (h : cs.head? ≠ some '/') :
    markChars mark ('<' :: cs) = '<' :: (mark ++ markChars mark cs) := by
  rw [markChars]
  rintro rest rfl
  exact h rfl

end Text

/-- Whether a piece is marked as it should be, by the form that it has: without a bracket, or
starting with one before a plain name, or with one and a slash. -/
inductive Marked (mark : String) : String → String → Prop where
  | text {t : String} (h : '<' ∉ t.toList) : Marked mark t t
  | opening {n t : String} (hn : isPlain n = true) (h : '<' ∉ t.toList) :
    Marked mark ("<" ++ n ++ t) ("<" ++ mark ++ n ++ t)
  | closing {t : String} (h : '<' ∉ t.toList) : Marked mark ("</" ++ t) ("</" ++ mark ++ t)

theorem isPlain_free {n : String} (h : isPlain n = true) :
    '<' ∉ n.toList ∧ Text.isOneLine n.toList = true := by
  have hall := (isPlain_iff.mp h).2
  refine ⟨fun hc => absurd (hall _ hc) (by decide), List.all_eq_true.mpr fun c hc => ?_⟩
  rw [Bool.and_eq_true, bne_iff_ne, bne_iff_ne]
  constructor <;> rintro rfl <;> exact absurd (hall _ hc) (by decide)

namespace Marked

variable {mark t u : String} (h : Marked mark t u)
include h

theorem append (rest : String) : Text.markTags mark (t ++ rest) = u ++ Text.markTags mark rest := by
  rw [← String.toList_inj]
  simp only [Text.markTags, String.toList_append, String.toList_ofList]
  cases h with
  | text ht => rw [Text.markChars_append _ ht]
  | @opening n t hn ht =>
    have hfree : '<' ∉ n.toList ++ t.toList := by
      rw [List.mem_append, not_or]
      exact ⟨(isPlain_free hn).1, ht⟩
    have hmarked := Text.markChars_opening mark.toList
      (Style.plain_head hn (t.toList ++ rest.toList))
    rw [← List.append_assoc, Text.markChars_append _ hfree] at hmarked
    simpa using hmarked
  | @closing t ht =>
    have hmarked : Text.markChars mark.toList ('<' :: '/' :: (t.toList ++ rest.toList)) =
        '<' :: '/' :: (mark.toList ++ Text.markChars mark.toList (t.toList ++ rest.toList)) := rfl
    rw [Text.markChars_append _ ht] at hmarked
    simpa using hmarked

theorem normalize (hmark : Text.isOneLine mark.toList = true) (e : Text.LineEnding) :
    Marked mark (Text.normalize e t) (Text.normalize e u) := by
  have hfree {t : String} (ht : '<' ∉ t.toList) : '<' ∉ (Text.normalize e t).toList :=
    fun hmem => ht ((Text.mem_normalize (by decide) (by decide) e t).mp hmem)
  have honeLine {cs : String} (hcs : Text.isOneLine cs.toList = true) :
      Text.isOneLine (cs ++ mark).toList = true := by
    rw [String.toList_append, Text.isOneLine_append, hcs, hmark]
    rfl
  cases h with
  | text ht => exact .text (hfree ht)
  | @opening n t hn ht =>
    have hname := (isPlain_free hn).2
    rw [Text.normalize_oneLine_append e (s := "<" ++ n),
      Text.normalize_oneLine_append e (s := "<" ++ mark ++ n)]
    · exact .opening hn (hfree ht)
    · rw [String.toList_append, Text.isOneLine_append, honeLine (by decide), hname]
      rfl
    · rw [String.toList_append, Text.isOneLine_append, hname]
      rfl
  | @closing t ht =>
    rw [Text.normalize_oneLine_append e (by decide),
      Text.normalize_oneLine_append e (honeLine (by decide))]
    exact .closing (hfree ht)

end Marked

def AllMarked (mark : String) : List String → List String → Prop := List.Forall₂ (Marked mark)

namespace AllMarked

variable {mark : String} {ps qs : List String} (h : AllMarked mark ps qs)
include h

theorem join : Text.markTags mark (String.join ps) = String.join qs := by
  induction h with
  | nil => rfl
  | cons hp _ ih => rw [String.join_cons, hp.append, ih, String.join_cons]

theorem normalize (hmark : Text.isOneLine mark.toList = true) (e : Text.LineEnding) :
    AllMarked mark (ps.map (Text.normalize e)) (qs.map (Text.normalize e)) := by
  induction h with
  | nil => exact .nil
  | cons hp _ ih => exact .cons (hp.normalize hmark e) ih

end AllMarked

/-! ## Parts with a qualifier -/

def Style.qualifiedBy (st : Style) (q : String) : Style := { st with qualifier := some q }

theorem attributes_free {a : Attributes} (ha : a.Named BracketFree) :
    BracketFree (Tag.attributes a) := by
  intro hc
  rcases Tag.mem_attributes hc with hmark | ⟨n, hn, hname⟩ | ⟨v, hvalue⟩
  · exact absurd hmark (by decide)
  · exact ha n hn hname
  · exact escape_free v hvalue

/-- Whether an event may write brackets that start no tag: raw text and comments. -/
def Event.isFreeform : Event → Bool
  | comment _ | pageBreak | rawText _ => true
  | _ => false

theorem Render.transition_qualifiedBy (st : Style) (q : String) (s : RenderState) (e : Event) :
    transition (st.qualifiedBy q) s e = transition st s e := by
  cases e <;> rfl

theorem Render.parts_qualifiedBy (st : Style) (q : String) (s : RenderState) (e : Event) :
    parts (st.qualifiedBy q) s e = parts st s e := by
  cases e with
  | figure m => cases m <;> rfl
  | _ => rfl

section
variable {q : String} (hq : q ≠ "")
include hq

/-- What a bracket starts that stands before a plain name, with a qualifier and without one. -/
theorem Marked.tag {n t : String} (hn : isPlain n = true) (ht : BracketFree t) :
    Marked (q ++ ":") ("<" ++ Tag.qualified none n ++ t)
      ("<" ++ Tag.qualified (some q) n ++ t) := by
  have hqualified : "<" ++ Tag.qualified (some q) n ++ t = "<" ++ (q ++ ":") ++ n ++ t := by
    simp only [Tag.qualified, if_neg hq, String.append_assoc]
  rw [hqualified]
  exact .opening hn ht

theorem Part.marked {e : Event} (he : e.isFreeform = false) {x : Part} (hx : x.Fits e)
    (hnames : x.Named BracketFree) : Marked (q ++ ":") (x.write none) (x.write (some q)) := by
  cases x with
  | text t => exact .text hx
  | comment t => rcases hx with rfl | rfl <;> cases he
  | raw t =>
    cases hx
    cases he
  | imageStart =>
    have htag := Marked.tag hq (n := "img") (t := "") (by decide) List.not_mem_nil
    rwa [String.append_empty, String.append_empty] at htag
  | start n a =>
    have hfree : BracketFree (Tag.attributes a ++ ">") := by
      simpa [BracketFree] using attributes_free hnames
    have htag := Marked.tag hq (Event.isPlain_tags n hx) hfree
    rwa [← String.append_assoc, ← String.append_assoc] at htag
  | single n a =>
    have hfree : BracketFree (Tag.attributes a ++ " />") := by
      simpa [BracketFree] using attributes_free hnames
    have htag := Marked.tag hq (Event.isPlain_tags n hx) hfree
    rwa [← String.append_assoc, ← String.append_assoc] at htag
  | finish n =>
    have hfree : BracketFree (n ++ ">") := by
      simpa [BracketFree] using (isPlain_free (Event.isPlain_tags n hx)).1
    have hclosing : Marked (q ++ ":") ("</" ++ (n ++ ">")) ("</" ++ (q ++ ":") ++ (n ++ ">")) :=
      .closing hfree
    simpa only [write, Tag.finish, Tag.qualified, if_neg hq, String.append_assoc] using hclosing

variable {o : Options} (ho : o.Names BracketFree) (hst : o.style.qualifier = none)
include ho hst

/-- An event that writes no freeform text writes the same pieces with a qualifier, marked. -/
theorem Render.respond_marked {s : RenderState} (hs : ∀ a ∈ s.pendingTable, a.Named BracketFree)
    {e : Event} (he : e.isFreeform = false) :
    AllMarked (q ++ ":") (respond o.style s e).pieces
      (respond (o.style.qualifiedBy q) s e).pieces := by
  rw [respond_parts, respond_parts, parts_qualifiedBy, hst, AllMarked, List.forall₂_map_left_iff,
    List.forall₂_map_right_iff, List.forall₂_same]
  exact fun x hx => x.marked hq he (parts_fit o.style s e x hx) (parts_named ho hs e x hx)

end

/-! ## Runs -/

/-- What came of a step, and the state that it left. -/
def Step.answer (x : Step Sink) : Except Fault Unit × RenderState :=
  (x.outcome.result, x.outcome.after.state)

section
variable {o : Options} (ho : o.Names BracketFree) {q : String} (hst : o.style.qualifier = none)
  (hq : q ≠ "")
include ho hst hq

theorem Render.output_marked {s : RenderState} (hs : ∀ a ∈ s.pendingTable, a.Named BracketFree)
    {es : List Event} (hes : ∀ e ∈ es, e.isFreeform = false) :
    AllMarked (q ++ ":") (output o.style s es) (output (o.style.qualifiedBy q) s es) := by
  induction es generalizing s with
  | nil => exact .nil
  | cons e es ih =>
    rw [List.forall_mem_cons] at hes
    rw [output, output, transition_qualifiedBy]
    exact List.rel_append (respond_marked hq ho hst hs hes.1) (ih (ho.pendingTable hs e) hes.2)

end

/-- The steps of a run over a buffer have the same answers with a qualifier. -/
theorem Sink.Ready.steps_qualifiedBy {k k' : Sink} (h : k.Ready) (h' : k'.Ready) {q : String}
    (hstyle : k'.style = k.style.qualifiedBy q) (hstate : k'.state = k.state)
    (hc : 0 ≤ k.state.cellIndex) (es : List Event) :
    (steps Sink.event k' es).map Step.answer = (steps Sink.event k es).map Step.answer := by
  induction es generalizing k k' with
  | nil => rfl
  | cons e es ih =>
    have hl := lookupFault?_none hc e
    obtain ⟨hr, hready, -⟩ := h.event hl
    obtain ⟨hr', hready', -⟩ := h'.event (by rw [hstate]; exact hl)
    have hs := event_state hr
    have hs' := event_state hr'
    rw [hstyle, hstate, transition_qualifiedBy, ← hs] at hs'
    have hrest := ih hready hready' (by rw [event_style, event_style, hstyle]) hs'
      (by rw [hs]; exact cellIndex_nonneg hc e)
    rw [steps_cons, steps_cons, List.map_cons, List.map_cons, hrest]
    simp only [Step.answer, hr, hr', hs']

def Options.qualified (o : Options) (q : Option String) (h : ∀ s ∈ q, isQualifier s = true) :
    Options :=
  { o with qualifier := q, qualifier_ok := h }

/-- **A qualifier only marks tags.** Send events other than raw text and comments to two sinks over
their own buffers, one with a qualifier of one line and one without, where no attribute name that
their options let through holds an opening bracket. Each event has the same result and leaves the
same state on both, and the text with a qualifier is the text without, in which the qualifier and a
colon are inserted after each opening bracket, or after the slash behind it. -/
theorem qualifier_only_marks (o : Options) {q : String} (hq : isQualifier q = true)
    (hline : Text.isOneLine q.toList = true) (ho : ∀ s, ∀ n ∈ o.allowed s, '<' ∉ n.toList)
    {es : List Event} (hes : ∀ e ∈ es, e.isFreeform = false) :
    let bare := Sink.inMemory (o.qualified none (by simp))
    let full := Sink.inMemory (o.qualified (some q) (by simpa using hq))
    (steps Sink.event full es).map Step.answer = (steps Sink.event bare es).map Step.answer ∧
      ∃ t, (final Sink.event bare es).value = .ok t ∧
        (final Sink.event full es).value = .ok (Text.markTags (q ++ ":") t) := by
  intro bare full
  have hbare : bare.Ready := Sink.inMemory_ready _
  have hfull : full.Ready := Sink.inMemory_ready _
  have hcells : (0 : Int) ≤ 0 := Int.le_refl 0
  refine ⟨hbare.steps_qualifiedBy hfull rfl rfl hcells es, ?_⟩
  obtain ⟨-, hready, htext⟩ := hbare.run (columnsFound_of_nonneg hcells es)
  obtain ⟨-, hready', htext'⟩ := hfull.run (columnsFound_of_nonneg hcells es)
  have hnames : (o.qualified none (by simp)).Names BracketFree := ⟨ho, by decide⟩
  have hne : q ≠ "" := by
    rintro rfl
    exact absurd hq (by decide)
  have hmark : Text.isOneLine (q ++ ":").toList = true := by
    rw [String.toList_append, Text.isOneLine_append, hline]
    rfl
  have hmarked := ((output_marked hnames rfl hne (s := .initial) (fun _ ha => by cases ha)
    hes).normalize hmark o.lineEnding).join
  refine ⟨_, hready.value, ?_⟩
  have hempty : bare.destination.text = "" ∧ full.destination.text = "" := ⟨rfl, rfl⟩
  rw [hready'.value, htext, htext', hempty.1, hempty.2, String.empty_append, String.empty_append]
  exact congrArg _ hmarked.symm

def illustrated : List Event :=
  [.sectionStart 1 ∅, .link "#a" ∅ .absent, .text "1 < 2" ∅, .linkEnd, .figure none,
    .figureGraphics "</a>" none, .figureEnd, .sectionEnd 1]

theorem illustrated_marked :
    (∀ e ∈ illustrated, e.isFreeform = false) ∧
      (final Sink.event (.inMemory (Options.usual.qualified (some "x") (by decide)))
        illustrated).value =
        .ok ("<x:div class=\"section\"><x:a href=\"#a\">1 &lt; 2</x:a>" ++
          "<x:img src=\"&lt;/a&gt;\" /></x:div>") := by
  have hes : ∀ e ∈ illustrated, e.isFreeform = false := by decide
  obtain ⟨-, t, hbare, hfull⟩ := qualifier_only_marks .usual (q := "x") (by decide) (by decide)
    (fun s => by cases s <;> decide) hes
  have ht : (final Sink.event (.inMemory (Options.usual.qualified none (by simp)))
      illustrated).value = .ok ("<div class=\"section\"><a href=\"#a\">1 &lt; 2</a>" ++
        "<img src=\"&lt;/a&gt;\" /></div>") := by decide
  have htext := Except.ok.inj (hbare.symm.trans ht)
  refine ⟨hes, hfull.trans ?_⟩
  rw [htext]
  decide

end EventMarkup
