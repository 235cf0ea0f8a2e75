import EventMarkup.Proofs.Shape
import EventMarkup.Proofs.Transition
import Mathlib.Data.List.DropRight

/-!
# The state mirrors the open constructs

A guard keeps a list of the open constructs, the sink under it flags and counters. In a run that
never opens a second head, verbatim block, figure or table inside the first, each field of the state
can be told from the events so far (`Mirrors`): from the constructs that are open, or from the
events since the latest start of one.
-/
namespace EventMarkup

/-- The constructs of which a run here has one open at a time. -/
def single : List Construct := [.head, .verbatim, .figure, .table]

/-! ## What the open constructs tell -/

/-- Whether a verbatim block is open that was started with no head open. -/
def verbatimShown : List Event → Bool
  | [] => false
  | e :: S => decide (e.starts? = some .verbatim) && !opened S .head || verbatimShown S

/-- The convention of the open figure. -/
def figureOf (S : List Event) : Option Convention :=
  S.findSome? fun
    | .figure m => some (conventionOf m)
    | _ => none

/-- The convention of the figure around the open caption. -/
def captionOf (S : List Event) : Option Convention :=
  if opened S .figureCaption then figureOf S else none

/-- The columns that the open rows of a table were given. -/
def columnsOf (S : List Event) : Option (Option (List (Option String))) :=
  S.findSome? fun
    | .tableRows j _ => some j
    | _ => none

/-! ## What the events so far tell -/

/-- The events after the latest start of a construct. -/
def since (k : Construct) (es : List Event) : List Event :=
  es.rtakeWhile fun e => e.starts? ≠ some k

/-- The cells ended since the latest row started. -/
def cellsEnded (es : List Event) : Nat :=
  (since .tableRow es).countP fun e => (e matches .cellEnd _)

/-- The rows started since rows were last declared. -/
def rowsStarted (es : List Event) : Nat :=
  (since .tableRows es).countP fun e => e.starts? = some .tableRow

/-- The attributes of a table whose rows are still to come: those of the latest table, unless rows
were declared after it. -/
def pendingTable (st : Style) (es : List Event) : Option Attributes :=
  (es.reverse.find? fun e => e.starts? = some .table || e.starts? = some .tableRows).bind fun
    | .table m => some (st.admitted .table m)
    | _ => none

/-- The texts of the latest head, up to its end. -/
def headTexts (st : Style) (es : List Event) : List String :=
  (if .head ∈ es then (since .head es).takeWhile (· ≠ .headEnd) else []).filterMap
    (Render.headText? st)

/-- The state of a sink, told from the events that it has received. -/
structure Mirrors (st : Style) (es : List Event) (s : RenderState) : Prop where
  headMode : s.headMode = opened (enclosure es) .head
  verbatimMode : s.verbatimMode = verbatimShown (enclosure es)
  figureMode : s.figureMode = figureOf (enclosure es)
  captionMode : s.captionMode = captionOf (enclosure es)
  hasJustification : s.hasJustification = opened (enclosure es) .tableRows
  justification : s.justification = (columnsOf (enclosure es)).join.map fun entries => { entries }
  cellIndex : s.cellIndex = if opened (enclosure es) .tableRow then (cellsEnded es : Int) else 0
  rowIsEven : s.rowIsEven ↔ (opened (enclosure es) .tableRows → rowsStarted es % 2 = 0)
  pendingTable : s.pendingTable = pendingTable st es
  headBuffer : s.headBuffer = headTexts st es

/-! ## Fields told from the open constructs -/

theorem verbatimShown_false {S : List Event} (h : opened S .verbatim = false) :
    verbatimShown S = false := by
  induction S with
  | nil => rfl
  | cons f S ih =>
    simp only [opened_cons, Bool.or_eq_false_iff] at h
    simp [verbatimShown, h.1, ih h.2]

theorem figureOf_none {S : List Event} (h : opened S .figure = false) : figureOf S = none := by
  refine List.findSome?_eq_none_iff.mpr fun f hf => ?_
  have hk := List.any_eq_false.mp h f hf
  cases f <;> simp_all [Event.starts?]

theorem columnsOf_none {S : List Event} (h : opened S .tableRows = false) : columnsOf S = none := by
  refine List.findSome?_eq_none_iff.mpr fun f hf => ?_
  have hk := List.any_eq_false.mp h f hf
  cases f <;> simp_all [Event.starts?]

section
variable {st : Style} {s : RenderState} {e : Event} {S S' : List Event}
  (hm : Moves S e S')

include hm in
theorem headMode_step {ks : List Construct} (hn : Nested ks S) (hk : .head ∈ ks)
    (h : s.headMode = opened S .head) :
    (Render.transition st s e).headMode = opened S' .head := by
  rw [hm.opened_eq fun f T hS => (hS ▸ hn).alone hk, ← h]
  simp only [Render.transition_eq]
  cases e <;> simp [Event.starts?, Event.ends?, Event.nesting]

variable (hn : Nested single S) (hr : reopens single S e = false)

include hm hn in
theorem verbatimMode_step (hh : s.headMode = opened S .head)
    (h : s.verbatimMode = verbatimShown S) :
    (Render.transition st s e).verbatimMode = verbatimShown S' := by
  simp only [Render.transition_eq]
  cases hm with
  | leaf hl => cases hl <;> exact h
  | start hp =>
    cases hp with
    | verbatim => cases ho : opened S .head <;> simp [hh, h, ho, verbatimShown, Event.starts?]
    | _ => simpa [verbatimShown, Event.starts?] using h
  | finish hp =>
    cases hp with
    | verbatim =>
      have hv := verbatimShown_false (hn.alone (by decide) rfl)
      cases ho : s.headMode <;> simp_all [verbatimShown, Event.starts?]
    | _ => simpa [verbatimShown, Event.starts?] using h

include hm hn in
theorem figureMode_step (h : s.figureMode = figureOf S) :
    (Render.transition st s e).figureMode = figureOf S' := by
  simp only [Render.transition_eq]
  cases hm with
  | leaf hl => cases hl <;> exact h
  | start hp => cases hp <;> simp [figureOf, h]
  | finish hp =>
    cases hp with
    | figure => exact (figureOf_none (hn.alone (by decide) rfl)).symm
    | _ => simpa [figureOf] using h

/-- A caption is written in the convention of the figure that it stands in. -/
theorem captionConvention_of_fits {m : Option Mapping} (hf : fits S.head? (.figureCaption m) = true)
    (h : s.figureMode = figureOf S) : some (Render.captionConvention s m) = figureOf S := by
  cases S with
  | nil => cases hf
  | cons f S =>
    simp only [fits, List.head?_cons, Bool.and_eq_true] at hf
    obtain ⟨hi, ho⟩ := hf
    have hk : f.starts? = some .figure := of_decide_eq_true hi
    cases f with
    | figure o =>
      cases o <;> cases m <;> simp_all [Render.captionConvention, figureOf, conventionOf]
    | _ => cases hk

include hm hn hr in
theorem captionMode_step (hg : s.figureMode = figureOf S) (h : s.captionMode = captionOf S) :
    (Render.transition st s e).captionMode = captionOf S' := by
  simp only [Render.transition_eq]
  cases hm with
  | leaf hl => cases hl <;> exact h
  | start hp hf =>
    cases hp with
    | figure m =>
      have hc := hn.no_part caption_in_figure (by simpa [reopens, single, Event.starts?] using hr)
      simpa [captionOf, hc, Event.starts?] using h
    | figureCaption m =>
      exact (captionConvention_of_fits hf hg).trans (by simp [captionOf, figureOf, Event.starts?])
    | _ => simpa [captionOf, figureOf, Event.starts?] using h
  | finish hp =>
    cases hp with
    | figure m =>
      have hS := hn.tail
      have hc := hS.no_part caption_in_figure (hn.alone (by decide) rfl)
      simpa [captionOf, hc, Event.starts?] using h
    | figureCaption m => simp [captionOf, hn.alone_caption (by decide) rfl]
    | _ => simpa [captionOf, figureOf, Event.starts?] using h

include hm hn in
theorem hasJustification_step (h : s.hasJustification = opened S .tableRows) :
    (Render.transition st s e).hasJustification = opened S' .tableRows := by
  rw [hm.opened_eq fun f T hS => (hS ▸ hn).alone_rows (by decide), ← h]
  simp only [Render.transition_eq]
  cases e <;> simp [Event.starts?, Event.ends?, Event.nesting]

include hm hn in
theorem justification_step
    (h : s.justification = (columnsOf S).join.map fun entries => { entries }) :
    (Render.transition st s e).justification =
      (columnsOf S').join.map fun entries => { entries } := by
  simp only [Render.transition_eq]
  cases hm with
  | leaf hl => cases hl <;> exact h
  | start hp => cases hp <;> simp [columnsOf, h]
  | finish hp =>
    cases hp with
    | tableRows => rw [columnsOf_none (hn.alone_rows (by decide) rfl)]; rfl
    | _ => simpa [columnsOf] using h

end

/-! ## Fields told from the events so far -/

section
variable {e : Event} {k : Construct} (es : List Event)

theorem since_start (h : e.starts? = some k) : since k (es ++ [e]) = [] :=
  List.rtakeWhile_concat_neg _ _ e (by simp [h])

theorem since_other (h : e.starts? ≠ some k) : since k (es ++ [e]) = since k es ++ [e] :=
  List.rtakeWhile_concat_pos _ _ e (by simp [h])

/-- A count of events starts over with each start of the construct. -/
theorem countP_since_concat (p : Event → Bool) : (since k (es ++ [e])).countP p =
    if e.starts? = some k then 0 else (since k es).countP p + if p e then 1 else 0 := by
  split
  · rename_i h
    rw [since_start es h]
    rfl
  · rename_i h
    rw [since_other es h, List.countP_append, List.countP_singleton]

theorem cellsEnded_concat : cellsEnded (es ++ [e]) =
    if e.starts? = some .tableRow then 0
    else cellsEnded es + (if e matches .cellEnd _ then 1 else 0) :=
  countP_since_concat es _

theorem rowsStarted_concat : rowsStarted (es ++ [e]) =
    if e.starts? = some .tableRows then 0
    else rowsStarted es + (if e.starts? = some .tableRow then 1 else 0) := by
  simpa [rowsStarted] using countP_since_concat es fun e => e.starts? = some .tableRow

/-- Whether the latest head has not ended. -/
def headLasts (es : List Event) : Bool := .head ∈ es ∧ .headEnd ∉ since .head es

theorem headTexts_concat (st : Style) : headTexts st (es ++ [e]) =
    match e with
    | .head => []
    | _ => if headLasts es then headTexts st es ++ (Render.headText? st e).toList
      else headTexts st es := by
  by_cases he : e = .head
  · subst he
    rw [headTexts, since_start es rfl]
    simp
  have hk : e.starts? ≠ some .head := by cases e <;> simp_all [Event.starts?]
  have hm : .head ∈ es ++ [e] ↔ .head ∈ es := by simp [Ne.symm he]
  simp only [headTexts, hm, since_other es hk, List.takeWhile_append, headLasts]
  by_cases hin : .head ∈ es
  · by_cases hend : .headEnd ∈ since .head es
    · have hlen : ((since .head es).takeWhile (· ≠ .headEnd)).length ≠ (since .head es).length :=
        fun h => by
          have hall := List.takeWhile_eq_self_iff.mp ((List.takeWhile_prefix _).eq_of_length h)
          simpa using hall _ hend
      rw [if_pos hin, if_neg hlen]
      cases e <;> simp_all
    · have hall : (since .head es).takeWhile (· ≠ .headEnd) = since .head es := by
        rw [List.takeWhile_eq_self_iff]
        exact fun f hf => by simpa using ne_of_mem_of_not_mem hf hend
      rw [if_pos hin, if_pos (congrArg List.length hall), if_pos hin, hall]
      cases e <;> simp_all [Render.headText?]
  · cases e <;> simp_all

/-- Whether the latest head is open is seen from the events since its start. -/
theorem headLasts_concat : headLasts (es ++ [e]) =
    match e with
    | .head => true
    | .headEnd => false
    | _ => headLasts es := by
  by_cases he : e = .head
  · subst he
    rw [headLasts, since_start es rfl]
    simp
  have hk : e.starts? ≠ some .head := by cases e <;> simp_all [Event.starts?]
  have hm : .head ∈ es ++ [e] ↔ .head ∈ es := by simp [Ne.symm he]
  simp only [headLasts, hm, since_other es hk, List.mem_append, List.mem_singleton]
  cases e <;> simp_all

end

section
variable {st : Style} {s : RenderState} {e : Event} {S S' es : List Event}
  (hm : Moves S e S') (hn : Nested single S) (hn' : Nested single S')

include hm hn in
theorem headLasts_step (h : headLasts es = opened S .head) :
    headLasts (es ++ [e]) = opened S' .head := by
  rw [hm.opened_eq fun f T hS => (hS ▸ hn).alone (by decide), ← h]
  cases e <;> simp [headLasts_concat, Event.starts?, Event.ends?, Event.nesting]

theorem headBuffer_step (hl : headLasts es = opened S .head) (hh : s.headMode = opened S .head)
    (h : s.headBuffer = headTexts st es) :
    (Render.transition st s e).headBuffer = headTexts st (es ++ [e]) := by
  simp only [Render.transition_eq, headTexts_concat]
  cases e <;> simp only [h, hh, hl]

include hm hn in
theorem cellIndex_step (hj : s.hasJustification = opened S .tableRows)
    (h : s.cellIndex = if opened S .tableRow then (cellsEnded es : Int) else 0) :
    (Render.transition st s e).cellIndex =
      if opened S' .tableRow then (cellsEnded (es ++ [e]) : Int) else 0 := by
  simp only [Render.transition_eq, cellsEnded_concat]
  cases hm with
  | leaf hl => cases hl <;> simpa [Event.starts?] using h
  | start hp => cases hp <;> simp [Event.starts?, h]
  | finish hp =>
    cases hp with
    | tableRow => simp [hn.alone_row (by decide) rfl]
    | cell =>
      -- a cell that ends stood in a row, so rows are open and the sink counts it
      have hrow := opened_of_inside hn.fits_head
      have hrows := hn.tail.opened_whole row_in_rows hrow
      simp [hj, h, hrow, hrows, Event.starts?]
    | _ => simpa [Event.starts?] using h

include hm hn hn' in
theorem rowIsEven_step (h : s.rowIsEven ↔ (opened S .tableRows → rowsStarted es % 2 = 0)) :
    (Render.transition st s e).rowIsEven ↔
      (opened S' .tableRows → rowsStarted (es ++ [e]) % 2 = 0) := by
  simp only [Render.transition_eq, rowsStarted_concat]
  cases hm with
  | leaf hl => cases hl <;> simpa [Event.starts?] using h
  | start hp hf =>
    cases hp with
    | tableRows => simpa [hn'.alone_rows (by decide) rfl, Event.starts?] using h
    | tableRow =>
      have hrows : opened S .tableRows = true := opened_of_inside hf
      have hs : s.rowIsEven ↔ rowsStarted es % 2 = 0 := by simpa [hrows] using h
      simp only [Bool.not_eq_true', Event.starts?, opened_cons, hrows, Bool.or_true, if_true,
        forall_const, ← Bool.not_eq_true, hs, reduceCtorEq, if_false, Option.some.injEq]
      omega
    | _ => simpa [Event.starts?] using h
  | finish hp =>
    cases hp with
    | tableRows => simp [hn.alone_rows (by decide) rfl]
    | _ => simpa [Event.starts?] using h

theorem pendingTable_step (h : s.pendingTable = pendingTable st es) :
    (Render.transition st s e).pendingTable = pendingTable st (es ++ [e]) := by
  simp only [Render.transition_eq, pendingTable, List.reverse_concat, List.find?_cons]
  cases e <;> first | rfl | exact h

end

/-! ## Runs -/

/-- What a run so far and a state have in common, with what is needed of the run to go on. -/
structure Tracks (st : Style) (past : List Event) (g : Guard) (s : RenderState) : Prop where
  nested : Nested single (enclosure past)
  guard : Matches (enclosure past) g
  headLasts : headLasts past = opened (enclosure past) .head
  state : Mirrors st past s

theorem Tracks.start (st : Style) : Tracks st [] [] .initial where
  nested := .nil
  guard := .nil
  headLasts := rfl
  state := by constructor <;> first | rfl | exact ⟨fun _ h => (nomatch h), fun _ => rfl⟩

section
variable {st : Style} {past : List Event} {g g' : Guard} {s : RenderState} {e : Event}

theorem Moves.enclosure_concat {S' : List Event} (hm : Moves (enclosure past) e S') :
    enclosure (past ++ [e]) = S' := by
  rw [EventMarkup.enclosure_concat, hm.enclose]

/-- An event that a guard lets pass and that reopens nothing keeps state and run together. -/
theorem Tracks.step (h : Tracks st past g s) (ha : g.accept e = .ok g')
    (hr : reopens single (enclosure past) e = false) :
    Tracks st (past ++ [e]) g' (Render.transition st s e) := by
  obtain ⟨S', hm, hg⟩ := accept_moves h.guard ha
  have hn := h.nested
  have hn' := hm.nested hr hn
  obtain ⟨hhead, hverb, hfig, hcap, hhas, hjust, hcell, hrow, hpend, hbuf⟩ := h.state
  have hl := h.headLasts
  refine ⟨?_, ?_, ?_, ?_⟩
  · rw [hm.enclosure_concat]; exact hn'
  · rw [hm.enclosure_concat]; exact hg
  · rw [hm.enclosure_concat]; exact headLasts_step hm hn hl
  · constructor <;> try rw [hm.enclosure_concat]
    · exact headMode_step hm hn (by decide) hhead
    · exact verbatimMode_step hm hn hhead hverb
    · exact figureMode_step hm hn hfig
    · exact captionMode_step hm hn hr hfig hcap
    · exact hasJustification_step hm hn hhas
    · exact justification_step hm hn hjust
    · exact cellIndex_step hm hn hhas hcell
    · exact rowIsEven_step hm hn hn' hrow
    · exact pendingTable_step hpend
    · exact headBuffer_step hl hhead hbuf

end

/-- State and run stay together over any events that all go well. -/
theorem Tracks.events {past : List Event} {g : Guard} {k : Sink} {es : List Event}
    (h : Tracks k.style past g k.state) (hv : k.vocabulary = .everything)
    (hok : ((⟨[g], k⟩ : Session).events es).result = .ok ())
    (hone : neverReopens single (enclosure past) es = true) :
    ∃ g', ((⟨[g], k⟩ : Session).events es).after.guards = [g'] ∧
      Tracks k.style (past ++ es) g' ((⟨[g], k⟩ : Session).events es).after.sink.state := by
  induction es generalizing past g k with
  | nil => exact ⟨g, rfl, by rw [List.append_nil]; exact h⟩
  | cons e es ih =>
    obtain ⟨he, hes, hlast⟩ := Session.events_cons_ok hok
    have hk : k.vocabulary.knows e = true := by rw [hv]; rfl
    obtain ⟨g₁, ha, hs, hafter⟩ := Session.event_ok hk he
    obtain ⟨hr, hone⟩ := neverReopens_cons.mp hone
    have h₁ := h.step ha hr
    rw [← Sink.event_state hs, ← Sink.event_style k e] at h₁
    rw [← enclosure_concat] at hone
    rw [hafter] at hes
    obtain ⟨g', hg, ht⟩ := ih h₁ (by rw [Sink.event_vocabulary, hv]) hes hone
    refine ⟨g', ?_, ?_⟩
    · rw [hlast, hafter, hg]
    · rw [hlast, hafter]
      rw [Sink.event_style, List.append_assoc] at ht
      exact ht

/-- After events that all went well under a guard, none of which opened a second head, verbatim
block, figure or table inside the first, the guard's constructs are those that the events left open,
and each field of the state is as they and the events tell. -/
theorem state_mirrors (o : Options) (d : Destination) (es : List Event)
    (hok : ((Session.start (Sink.fresh o d) 1).events es).result = .ok ())
    (hone : neverReopens single [] es = true) :
    ∃ g, ((Session.start (Sink.fresh o d) 1).events es).after.guards = [g] ∧
      Matches (enclosure es) g ∧
      Mirrors o.style es ((Session.start (Sink.fresh o d) 1).events es).after.sink.state := by
  have h : Tracks (Sink.fresh o d).style [] [] (Sink.fresh o d).state := Tracks.start _
  obtain ⟨g, hg, ht⟩ := h.events rfl hok hone
  exact ⟨g, hg, ht.guard, ht.state⟩

/-- A legacy figure with an open caption, in the second cell of the second row of a table. -/
def figureInTable : List Event :=
  [.head, .text "Title" ∅, .headEnd, .table ∅, .tableRows (some [some "left"]) true, .tableRow ∅,
    .tableRowEnd, .tableRow ∅, .cell .data ∅ .absent, .cellEnd .data, .cell .header ∅ .absent,
    .figure none, .figureCaption none]

theorem figureInTable_mirrored :
    let s := ((Session.start (.inMemory .usual) 1).events figureInTable).after.sink.state
    s.captionMode = some .legacy ∧ s.cellIndex = 1 ∧ s.rowIsEven = true ∧
      s.justification = some { entries := [some "left"] } ∧ s.headBuffer = ["Title"] := by
  have hok : ((Session.start (.inMemory .usual) 1).events figureInTable).result = .ok () := rfl
  obtain ⟨_, _, _, h⟩ := state_mirrors _ _ figureInTable hok (by decide)
  refine ⟨h.captionMode.trans rfl, h.cellIndex.trans (by decide), h.rowIsEven.mpr (by decide),
    h.justification.trans (by decide), h.headBuffer.trans (by decide)⟩

end EventMarkup
