import EventMarkup.Proofs.Grammar
import EventMarkup.Proofs.Mirror
import EventMarkup.Proofs.OpenTags

/-!
# Markup of accepted runs is well nested

What a sink has written, as a reader sees it, follows the constructs that are open: the tags open
are those of the enclosure (`openTags`), where a table has a tag for each time its rows started.
Only in a legacy figure a reader is not in text but in the tag of the figure, and in the caption of
one in an attribute value (`Standing`).

* `Sound.step`: every event in order that keeps to what legacy figures can hold takes a reader along
  with the enclosure.
* `accepted_wellNested`: the markup of an accepted run that closes all constructs is well nested.
-/
namespace EventMarkup

open Render

/-! ## Runs that can be written -/

/-- Whether an event keeps to what a legacy figure and its caption can hold: graphics and a caption
without attributes, and in the caption text without attributes and spaces. -/
def bareInLegacy : List Event → Event → Bool
  | .figure none :: _, .figureGraphics _ m | .figure none :: _, .figureCaption m => m.isNone
  | .figure none :: _, e => e = .figureEnd
  | .figureCaption _ :: .figure none :: _, .text _ m => m.isEmpty
  | .figureCaption _ :: .figure none :: _, e => e = .nonBreakingSpace || e = .figureCaptionEnd
  | _, _ => true

/-- How often rows have started in each open table, innermost first. -/
def declare (rows : List Nat) : Event → List Nat
  | .table _ => 0 :: rows
  | .tableRows .. => (rows.headD 0 + 1) :: rows.tail
  | .tableEnd => rows.tail
  | _ => rows

/-- Whether rows start once in each table that ends. -/
def rowsOnce (rows : List Nat) : List Event → Bool
  | [] => true
  | e :: es => (e ≠ .tableEnd || rows.head? = some 1) && rowsOnce (declare rows e) es

/-- Runs whose constructs can all be written as markup. -/
structure Writable (es : List Event) : Prop where
  noRawText : ∀ t, .rawText t ∉ es
  oneHead : neverReopens [.head] [] es = true
  oneRows : rowsOnce [] es = true
  bareLegacy : throughout bareInLegacy [] es = true

/-! ## Where a reader stands -/

/-- The tags of an enclosure outside legacy figures, innermost first. -/
def openTags (st : Style) : List Event → List Nat → List (List Char)
  | [], _ => []
  | .table _ :: S, rows =>
    List.replicate (rows.headD 0) (st.tagName "table") ++ openTags st S rows.tail
  | e :: S, rows => (ownTags (opened S .head) e).map st.tagName ++ openTags st S rows

/-- Where a reader of the markup written so far stands: in text, or in the tag of a legacy figure,
or in the value that the caption of one becomes. -/
inductive Standing (st : Style) (s : RenderState) : List Event → List Nat → Reader → Prop
  | text {S : List Event} {rows : List Nat} :
    .figure none ∉ S → s.figureMode ≠ some .legacy → s.captionMode ≠ some .legacy →
      Standing st s S rows ⟨.data, openTags st S rows⟩
  | figure {S : List Event} {rows : List Nat} {r : Reader} :
    .figure none ∉ S → s.figureMode = some .legacy → s.captionMode ≠ some .legacy →
      Reader.InTag (st.tagName "img") (openTags st S rows) r →
      Standing st s (.figure none :: S) rows r
  | caption {m : Option Mapping} {S : List Event} {rows : List Nat} :
    .figure none ∉ S → s.figureMode = some .legacy → s.captionMode = some .legacy →
      Standing st s (.figureCaption m :: .figure none :: S) rows
        ⟨.value (st.tagName "img"), openTags st S rows⟩

/-! ## Open tags along a run -/

section
variable {st : Style} {S : List Event} {rows : List Nat} {e f : Event}

theorem openTags_start (hp : Pair e f) (hrows : ∀ j grid, e ≠ .tableRows j grid) :
    openTags st (e :: S) (declare rows e) =
      (ownTags (opened S .head) e).map st.tagName ++ openTags st S rows := by
  cases hp with
  | tableRows j grid => exact absurd rfl (hrows j grid)
  | table m => simp [openTags, declare, ownTags, flowTags]
  | _ => rfl

theorem openTags_rows (hin : inside S.head? .table = true) (j : Option (List (Option String)))
    (grid : Bool) :
    openTags st (.tableRows j grid :: S) (declare rows (.tableRows j grid)) =
      st.tagName "table" :: openTags st S rows := by
  cases S with
  | nil => cases hin
  | cons t S =>
    have ht : t.starts? = some .table := of_decide_eq_true hin
    cases t with
    | table m => simp [openTags, declare, ownTags, flowTags, List.replicate_succ]
    | _ => cases ht

/-- The tags that a construct closes do not depend on whether its own start is counted. -/
theorem ownTags_cons (e : Event) (S : List Event) :
    ownTags (opened (e :: S) .head) e = ownTags (opened S .head) e := by
  cases e <;> simp [ownTags, flowTags, Event.starts?]

theorem openTags_finish (hp : Pair e f) (htable : ∀ m, e ≠ .table m) :
    openTags st (e :: S) rows =
      (ownTags (opened (e :: S) .head) e).map st.tagName ++ openTags st S (declare rows f) := by
  rw [ownTags_cons]
  cases hp with
  | table m => exact absurd rfl (htable m)
  | _ => rfl

theorem openTags_tableEnd {m : Mapping} (h : rows.head? = some 1) :
    openTags st (.table m :: S) rows =
      st.tagName "table" :: openTags st S (declare rows .tableEnd) := by
  obtain ⟨rows, rfl⟩ := List.head?_eq_some_iff.mp h
  rfl

end

/-! ## Steps of a reader -/

/-- Outside legacy figures only the start of one brings their convention about. -/
theorem not_legacy_step (st : Style) {s : RenderState} {e : Event} (he : e ≠ .figure none)
    (hf : s.figureMode ≠ some .legacy) (hc : s.captionMode ≠ some .legacy) :
    (transition st s e).figureMode ≠ some .legacy ∧
      (transition st s e).captionMode ≠ some .legacy := by
  simp only [transition_eq]
  cases e with
  | figure m => cases m <;> simp_all [conventionOf]
  | figureCaption m => simp [captionConvention, hf]
  | figureEnd => exact ⟨by simp, hc⟩
  | figureCaptionEnd => exact ⟨hf, by simp⟩
  | _ => exact ⟨hf, hc⟩

/-- Text without attributes is not decorated. -/
theorem textTags_of_isEmpty {s : RenderState} {m : Mapping} (h : m.isEmpty = true) :
    textTags s m = [] := by
  obtain ⟨entries, hd⟩ := m
  have he : entries = [] := List.isEmpty_iff.mp h
  subst he
  unfold textTags
  split <;> rfl

section
variable {o : Options} (ho : o.Readable) {s : RenderState} {S S' : List Event} {rows : List Nat}
  {e : Event}
include ho

/-- The start of a legacy figure leaves a reader in its tag. -/
theorem legacy_start (hS : .figure none ∉ S) (hc : s.captionMode ≠ some .legacy) :
    ∃ r, (Reader.mk .data (openTags o.style S rows)).readAll
        (respond o.style s (.figure none)).pieces = some r ∧
      Standing o.style (transition o.style s (.figure none)) (.figure none :: S) rows r := by
  have himg : isName (o.style.tagName "img") = true := ho.name (by decide)
  have hread : (Reader.mk .data (openTags o.style S rows)).read
      ('<' :: o.style.tagName "img") = _ := Reader.read_open himg
  refine ⟨⟨.name (o.style.tagName "img"), openTags o.style S rows⟩, ?_,
    .figure hS rfl hc (.inl rfl)⟩
  simpa [respond, figure, Reaction.write, Reaction.noting, Style.tagName] using hread

theorem text_start {f : Event} (hp : Pair e f) (hfit : fits S.head? e = true)
    (hfig : e ≠ .figure none) (hh : s.headMode = opened S .head)
    (hpend : ∀ a ∈ s.pendingTable, a.Bare) (hf : s.figureMode ≠ some .legacy) :
    Takes (respond o.style s e).pieces (openTags o.style S rows)
      (openTags o.style (e :: S) (declare rows e)) := by
  by_cases hrows : ∃ j grid, e = .tableRows j grid
  · obtain ⟨j, grid, rfl⟩ := hrows
    rw [openTags_rows hfit]
    exact ho.takes_rows hpend j grid
  · have hrows : ∀ j grid, e ≠ .tableRows j grid := fun j grid h => hrows ⟨j, grid, h⟩
    rw [openTags_start hp hrows, ← hh]
    exact ho.takes_start hp hfig hrows hf

theorem text_finish {b : Event} (hp : Pair b e) (hfig : b ≠ .figure none)
    (hh : s.headMode = opened (b :: S) .head) (hone : e = .tableEnd → rows.head? = some 1)
    (hf : s.figureMode ≠ some .legacy) (hc : s.captionMode ≠ some .legacy) :
    Takes (respond o.style s e).pieces (openTags o.style (b :: S) rows)
      (openTags o.style S (declare rows e)) := by
  by_cases htable : ∃ m, b = .table m
  · obtain ⟨m, rfl⟩ := htable
    cases hp with
    | table =>
      rw [openTags_tableEnd (hone rfl)]
      exact ho.takes_tableEnd
  · have htable : ∀ m, b ≠ .table m := fun m h => htable ⟨m, h⟩
    rw [openTags_finish hp htable, ← hh]
    exact ho.takes_finish hp hfig htable hf hc

/-- The steps of a reader in text. -/
theorem text_step (hm : Moves S e S') (hh : s.headMode = opened S .head)
    (hpend : ∀ a ∈ s.pendingTable, a.Bare) (hraw : ∀ t, e ≠ .rawText t)
    (hone : e = .tableEnd → rows.head? = some 1) (hS : .figure none ∉ S)
    (hf : s.figureMode ≠ some .legacy) (hc : s.captionMode ≠ some .legacy) :
    ∃ r, (Reader.mk .data (openTags o.style S rows)).readAll (respond o.style s e).pieces = some r ∧
      Standing o.style (transition o.style s e) S' (declare rows e) r := by
  -- only the start of a legacy figure leaves a reader elsewhere than in text
  by_cases hfig : e = .figure none
  · subst hfig
    cases hm with
    | leaf hl => cases hl
    | finish hp => cases hp
    | start hp => exact legacy_start ho hS hc
  obtain ⟨hf', hc'⟩ := not_legacy_step o.style hfig hf hc
  cases hm with
  | leaf hl =>
    have hd : declare rows e = rows := by cases hl <;> rfl
    rw [hd]
    exact ⟨_, ho.takes_leaf hl hraw hf, .text hS hf' hc'⟩
  | start hp hfit =>
    have hS' : .figure none ∉ e :: S := by
      simp only [List.mem_cons, not_or]
      exact ⟨Ne.symm hfig, hS⟩
    exact ⟨_, text_start ho hp hfit hfig hh hpend hf, .text hS' hf' hc'⟩
  | finish hp =>
    simp only [List.mem_cons, not_or] at hS
    exact ⟨_, text_finish ho hp (Ne.symm hS.1) hh hone hf hc, .text hS.2 hf' hc'⟩

theorem figure_step {r : Reader} (hm : Moves (.figure none :: S) e S')
    (hlegacy : bareInLegacy (.figure none :: S) e = true) (hS : .figure none ∉ S)
    (hf : s.figureMode = some .legacy) (hc : s.captionMode ≠ some .legacy)
    (hr : Reader.InTag (o.style.tagName "img") (openTags o.style S rows) r) :
    ∃ r', r.readAll (respond o.style s e).pieces = some r' ∧
      Standing o.style (transition o.style s e) S' (declare rows e) r' := by
  have himg : isName (o.style.tagName "img") = true := ho.name (by decide)
  cases hm with
  | leaf hl =>
    cases hl with
    | figureGraphics source m =>
      have hread : r.read (Tag.attributeText "src" source).toList = _ :=
        hr.attribute himg (by decide)
      refine ⟨_, ?_, .figure hS hf hc (.inr rfl)⟩
      have hm : m.isNone = true := hlegacy
      have hs : (respond o.style s (.figureGraphics source m)).pieces =
          [Tag.attributeText "src" source] := by
        simp only [respond, figureGraphics, hm, hf, and_self, if_true, Reaction.write]
        rfl
      rw [hs, Reader.readAll_singleton]
      exact hread
    | _ => cases hlegacy
  | start hp hfit =>
    cases hp with
    | figureCaption m =>
      have hread : r.read (" " ++ "alt" ++ "=\"").toList = _ := hr.attributeStart himg (by decide)
      have hm : m.isNone = true := hlegacy
      refine ⟨_, ?_, .caption hS hf ?_⟩
      · have hs : (respond o.style s (.figureCaption m)).pieces = [" " ++ "alt" ++ "=\""] := by
          simp only [respond, figureCaption, hm, hf, and_self, if_true, Reaction.write]
          rfl
        rw [hs, Reader.readAll_singleton]
        exact hread
      · simp [transition, captionConvention, hm, hf]
    | _ => cases hlegacy
  | finish hp =>
    cases hp with
    | figure =>
      refine ⟨_, ?_, .text hS (by simp [transition]) hc⟩
      have hs : (respond o.style s .figureEnd).pieces = [" />"] := by
        simp only [respond, figureEnd, hf, if_true, Reaction.andThen, Reaction.write]
      rw [hs, Reader.readAll_singleton, hr.single himg]
      rfl

omit ho in
theorem caption_step {m : Option Mapping} (hm : Moves (.figureCaption m :: .figure none :: S) e S')
    (hlegacy : bareInLegacy (.figureCaption m :: .figure none :: S) e = true)
    (hS : .figure none ∉ S) (hf : s.figureMode = some .legacy) (hc : s.captionMode = some .legacy) :
    ∃ r', (Reader.mk (.value (o.style.tagName "img")) (openTags o.style S rows)).readAll
        (respond o.style s e).pieces = some r' ∧
      Standing o.style (transition o.style s e) S' (declare rows e) r' := by
  cases hm with
  | leaf hl =>
    cases hl with
    | text t a =>
      refine ⟨_, ?_, .caption hS (by rwa [transition_eq]) (by rwa [transition_eq])⟩
      simp only [respond, Render.text]
      split
      · rfl
      · have hs : tagged o.style (textTags s a) t = [Text.escape t] := by
          simp [tagged, textTags_of_isEmpty hlegacy]
        rw [Reaction.write, hs, Reader.readAll_singleton]
        exact Reader.read_value (escape_bare t)
    | nonBreakingSpace =>
      refine ⟨_, ?_, .caption hS (by rwa [transition_eq]) (by rwa [transition_eq])⟩
      simp only [respond, nonBreakingSpace]
      split
      · rfl
      · exact (Reader.readAll_singleton _ _).trans (Reader.read_value (by decide))
    | _ => cases hlegacy
  | start hp hfit => cases hp <;> cases hlegacy
  | finish hp =>
    cases hp with
    | figureCaption =>
      refine ⟨_, ?_, .figure hS hf (by simp [transition]) (.inr rfl)⟩
      have hs : (respond o.style s .figureCaptionEnd).pieces = ["\""] := by
        simp only [respond, figureCaptionEnd, hc, if_true, Reaction.andThen, Reaction.write]
      rw [hs, Reader.readAll_singleton]
      rfl

/-- A reader takes the same steps as the enclosure. -/
theorem Standing.step {r : Reader} (h : Standing o.style s S rows r) (hm : Moves S e S')
    (hh : s.headMode = opened S .head) (hpend : ∀ a ∈ s.pendingTable, a.Bare)
    (hraw : ∀ t, e ≠ .rawText t) (hone : e = .tableEnd → rows.head? = some 1)
    (hlegacy : bareInLegacy S e = true) :
    ∃ r', r.readAll (respond o.style s e).pieces = some r' ∧
      Standing o.style (transition o.style s e) S' (declare rows e) r' := by
  cases h with
  | text hS hf hc => exact text_step ho hm hh hpend hraw hone hS hf hc
  | figure hS hf hc hr => exact figure_step ho hm hlegacy hS hf hc hr
  | caption hS hf hc => exact caption_step hm hlegacy hS hf hc

end

/-! ## Runs -/

/-- What holds of a sink and a reader of its markup between the events of a run. -/
structure Sound (st : Style) (S : List Event) (rows : List Nat) (s : RenderState) (r : Reader) :
    Prop where
  nested : Nested [.head] S
  headMode : s.headMode = opened S .head
  cellIndex : 0 ≤ s.cellIndex
  pending : ∀ a ∈ s.pendingTable, a.Bare
  standing : Standing st s S rows r

theorem Sound.start (st : Style) : Sound st [] [] .initial {} where
  nested := .nil
  headMode := rfl
  cellIndex := Int.le_refl 0
  pending := fun _ h => nomatch h
  standing := .text List.not_mem_nil (fun h => nomatch h) (fun h => nomatch h)

section
variable {o : Options} (ho : o.Readable)
include ho

/-- Every event in order that can be written keeps sink and reader in line. -/
theorem Sound.step {S S' : List Event} {rows : List Nat} {s : RenderState} {r : Reader} {e : Event}
    (h : Sound o.style S rows s r) (hm : Moves S e S') (hhead : reopens [.head] S e = false)
    (hraw : ∀ t, e ≠ .rawText t) (hone : e = .tableEnd → rows.head? = some 1)
    (hlegacy : bareInLegacy S e = true) :
    ∃ r', r.readAll (respond o.style s e).pieces = some r' ∧
      Sound o.style S' (declare rows e) (transition o.style s e) r' := by
  obtain ⟨r', hread, hs⟩ := h.standing.step ho hm h.headMode h.pending hraw hone hlegacy
  refine ⟨r', hread, ?_⟩
  exact {
    nested := hm.nested hhead h.nested
    headMode := headMode_step hm h.nested (by decide) h.headMode
    cellIndex := cellIndex_nonneg h.cellIndex e
    pending := ho.names.pendingTable h.pending e
    standing := hs }

/-- Sink and reader stay in line over a run in which no event is refused. -/
theorem Sound.run {S : List Event} {rows : List Nat} {g : Guard} {k : Sink} {r : Reader}
    {es : List Event} (h : Sound o.style S rows k.state r) (hg : Matches S g) (hshow : k.Shows r)
    (hv : k.vocabulary = .everything) (hst : k.style = o.style)
    (hacc : ∀ x ∈ steps Session.event ⟨[g], k⟩ es, x.refused = false)
    (hraw : ∀ t, .rawText t ∉ es)
    (hhead : neverReopens [.head] S es = true)
    (hrows : rowsOnce rows es = true) (hlegacy : throughout bareInLegacy S es = true) :
    ∃ T rows' r' g', (final Session.event ⟨[g], k⟩ es).guards = [g'] ∧ Matches T g' ∧
      (final Session.event ⟨[g], k⟩ es).sink.Shows r' ∧
      Sound o.style T rows' (final Session.event ⟨[g], k⟩ es).sink.state r' := by
  induction es generalizing S rows g k r with
  | nil => exact ⟨S, rows, r, g, rfl, hg, hshow, h⟩
  | cons e es ih =>
    have hk : k.vocabulary.knows e = true := by rw [hv]; rfl
    obtain ⟨hfirst, hhead⟩ := neverReopens_cons.mp hhead
    simp only [throughout, rowsOnce, Bool.and_eq_true, Bool.or_eq_true, decide_eq_true_eq]
      at hrows hlegacy
    simp only [List.mem_cons, not_or] at hraw
    rw [steps_cons, List.forall_mem_cons] at hacc
    cases ha : g.accept e with
    | error f =>
      rw [Session.event_refused hk ha] at hacc
      cases hacc.1
    | ok g₁ =>
      -- the guard moves with the enclosure, the reader with the sink's buffer, which cannot fail
      obtain ⟨S₁, hm, hg₁⟩ := accept_moves hg ha
      obtain ⟨r₁, hread, h₁⟩ := h.step ho hm hfirst (fun t => Ne.symm (hraw t).1)
        (fun he => hrows.1.resolve_left fun hne => hne he) hlegacy.1
      rw [← hst] at hread
      obtain ⟨hok, hshow₁⟩ := hshow.event hv h.cellIndex hread
      rw [← hst, ← Sink.event_state hok, hst] at h₁
      rw [Session.event_accepted hk ha] at hacc
      rw [final_cons, Session.event_accepted hk ha]
      rw [hm.enclose] at hhead hlegacy
      exact ih h₁ hg₁ hshow₁ (by rw [Sink.event_vocabulary, hv]) (by rw [Sink.event_style, hst])
        hacc.2 (fun t => (hraw t).2) hhead hrows.2 hlegacy.2

end

/-- **Well-nested markup.** If a guard over a sink with its own buffer refuses none of the events
and has no construct open in the end, then the markup in the buffer is well nested. -/
theorem accepted_wellNested (o : Options) (es : List Event) (ho : o.Readable) (hw : Writable es)
    (hacc : ∀ x ∈ steps Session.event (.start (.inMemory o) 1) es, x.refused = false)
    (hend : ((Session.start (.inMemory o) 1).run (es.map .event)).openConstructs = .ok []) :
    ∃ t, ((Session.start (.inMemory o) 1).run (es.map .event)).sink.value = .ok t ∧
      WellNested t := by
  rw [Session.run_events] at hend ⊢
  obtain ⟨T, rows, r, g, hg, hT, hshow, hs⟩ :=
    Sound.run ho (Sound.start o.style) .nil (Sink.inMemory_shows o) rfl rfl hacc hw.noRawText
      hw.oneHead hw.oneRows hw.bareLegacy
  obtain rfl := (openConstructs_nil_iff hg).mp hend
  cases hT
  obtain rfl : r = {} := by
    cases hs.standing
    rfl
  exact hshow.wellNested

/-- A captioned table in a section without a heading, with a legacy figure in its cell. -/
def figureInCell : List Event :=
  [.head, .text "<Title>" ∅, .headEnd, .sectionStart 9 ∅, .table ∅, .tableCaption ∅,
    .text "--" ∅, .tableCaptionEnd, .tableRows none true, .tableRow ∅, .cell .data ∅ .absent,
    .figure none, .figureGraphics "a>b" none, .figureCaption none, .text "\x22" ∅,
    .figureCaptionEnd, .figureEnd, .cellEnd .data, .tableRowEnd, .tableRowsEnd, .tableEnd,
    .comment "-->", .sectionEnd 9]

def qualifiedOptions : Options :=
  { Options.usual with qualifier := some "x", qualifier_ok := fun _ h => Option.some.inj h ▸ rfl }

theorem figureInCell_wellNested :
    ∃ t, ((Session.start (.inMemory qualifiedOptions) 1).run (figureInCell.map .event)).sink.value =
      .ok t ∧ WellNested t := by
  have ho : qualifiedOptions.Readable := by
    refine ⟨fun q hq => ?_, fun s => ?_⟩
    · cases hq; decide
    · cases s <;> decide
  have hw : Writable figureInCell :=
    ⟨fun t ht => by simp [figureInCell] at ht, by decide, by decide, by decide⟩
  exact accepted_wellNested qualifiedOptions figureInCell ho hw (by decide) (by decide)

end EventMarkup
