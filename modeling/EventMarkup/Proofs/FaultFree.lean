import EventMarkup.Proofs.Output
import EventMarkup.Proofs.SinkUse

/-!
# No event fails on a buffer

Over its own buffer a sink writes whatever events it is sent, in any order. What an event looks up
is always there: cells are counted from zero upwards, so a cell finds its column or none are
declared (`RenderState.finds_column`), and options have names for every scope
(`SinkOptions.allowedIn_key`). A numbering or an alignment that is unknown stands for the usual one:
a run writes what it writes with the words settled (`Render.output_settled`).
-/
namespace EventMarkup

/-! ## Lookups -/

namespace RenderState

variable {s : RenderState}

def columns (s : RenderState) : List (Option String) :=
  if s.hasJustification then (s.justification.map Columns.entries).getD [] else []

/-- Whether cells are counted from zero upwards and each one finds its column: that of its number,
or the last one for all cells after it, if any are declared. -/
def FindsColumn (s : RenderState) : Prop :=
  ∃ n : Nat, s.cellIndex = n ∧ (s.columns = [] → s.currentJustification = .ok none) ∧
    (s.columns ≠ [] → ∃ h : min n (s.columns.length - 1) < s.columns.length,
      s.currentJustification = .ok s.columns[min n (s.columns.length - 1)])

theorem currentJustification_eq {n : Nat} (h : s.cellIndex = n) :
    s.currentJustification = .ok (s.columns[n]?.or s.columns.getLast?).join := by
  unfold currentJustification columns
  cases s.hasJustification with
  | false => rfl
  | true =>
    cases s.justification with
    | none => rfl
    | some c =>
      have hentry (last : Option String) :
          c.entryAt last n = .ok (c.entries[n]?.or (some last)).join := by
        rw [Columns.entryAt, if_pos (Int.natCast_nonneg n), Int.toNat_natCast]
        cases c.entries[n]? <;> rfl
      simp only [h, hentry, if_true, Option.map_some, Option.getD_some]
      cases hlast : c.entries.getLast? with
      | none =>
        rw [List.getLast?_eq_none_iff.mp hlast]
        rfl
      | some last => rfl

/-- The entry at an index, or the last one past the end, is the one at the index cut off there. -/
theorem getElem?_or_getLast? {α : Type} (l : List α) (n : Nat) :
    l[n]?.or l.getLast? = l[min n (l.length - 1)]? := by
  rcases Nat.lt_or_ge n l.length with hn | hn
  · rw [Nat.min_eq_left (by omega), List.getElem?_eq_getElem hn]
    rfl
  · rw [Nat.min_eq_right (by omega), List.getElem?_eq_none hn, List.getLast?_eq_getElem?]
    rfl

theorem finds_column (h : 0 ≤ s.cellIndex) : s.FindsColumn := by
  obtain ⟨n, hn⟩ := Int.eq_ofNat_of_zero_le h
  refine ⟨n, hn, fun hnone => ?_, fun hsome => ?_⟩
  · rw [currentJustification_eq hn, hnone]
    rfl
  · have hlength := List.length_pos_iff.mpr hsome
    have hlt : min n (s.columns.length - 1) < s.columns.length := by omega
    refine ⟨hlt, ?_⟩
    rw [currentJustification_eq hn, getElem?_or_getLast?, List.getElem?_eq_getElem hlt]
    rfl

end RenderState

theorem Scope.ofKey?_key (s : Scope) : ofKey? s.key = some s := by cases s <;> decide

theorem SinkOptions.allowedIn_key (o : Options) (s : Scope) :
    (full o).allowedIn s.key = .ok (o.allowed s) := by
  simp only [allowedIn, Scope.ofKey?_key]

/-! ## Words settled -/

/-- A known word, or the usual one. -/
theorem Token.oneOf_oneOf (known : List String) (usual : String) (w : Option String) :
    oneOf known usual (some (oneOf known usual w)) = oneOf known usual w := by
  have husual : oneOf known usual (some usual) = usual := ite_self usual
  cases w with
  | none => exact husual
  | some w =>
    cases hw : known.contains w with
    | true => simp only [oneOf, hw, if_true]
    | false =>
      have hunknown : oneOf known usual (some w) = usual := by
        rw [oneOf, hw]
        rfl
      rw [hunknown, husual]

/-- The alignment of a column, the usual one in place of one that is unknown. -/
def Columns.settle (j : Option String) : Option String := j.map fun w => Token.alignment (some w)

def Columns.settled (c : Columns) : Columns := { c with entries := c.entries.map settle }

theorem Columns.entryAt_settle (c : Columns) (last : Option String) (i : Int) :
    c.settled.entryAt (settle last) i = (c.entryAt last i).map settle := by
  have hentry (n : Nat) : (c.entries.map settle)[n]?.getD (settle last) =
      settle (c.entries[n]?.getD last) := by
    rw [List.getElem?_map, Option.getD_map]
  simp only [entryAt, settled, List.length_map, hentry]
  split
  · rfl
  · split
    · rfl
    · split <;> rfl

/-- The event with known words for its numbering or its alignments: the usual ones for others. -/
def Event.settled : Event → Event
  | numberedList w m => numberedList (some (Token.numbering w)) m
  | tableRows j grid => tableRows (j.map (List.map Columns.settle)) grid
  | e => e

/-- The state with known words for the alignments of columns. -/
def RenderState.settled (s : RenderState) : RenderState :=
  { s with justification := s.justification.map Columns.settled }

/-- The reaction, in states with known words for the alignments of columns. -/
def Reaction.settled (r : Reaction) : Reaction :=
  { r with early := r.early.settled, late := r.late.settled }

namespace Render

theorem currentJustification_settled (s : RenderState) :
    s.settled.currentJustification =
      s.currentJustification.map Columns.settle := by
  unfold RenderState.currentJustification RenderState.settled
  cases s.hasJustification with
  | false => rfl
  | true =>
    cases s.justification with
    | none => rfl
    | some c =>
      simp only [Option.map_some, Columns.settled, List.getLast?_map]
      cases c.entries.getLast? with
      | none => rfl
      | some last => exact c.entryAt_settle last s.cellIndex

theorem cellAlignment_settled (s : RenderState) : cellAlignment s.settled = cellAlignment s := by
  unfold cellAlignment
  rw [currentJustification_settled]
  rcases s.currentJustification with f | _ | w
  · rfl
  · rfl
  · have hsettled := Token.oneOf_oneOf Token.alignments "center" (some w)
    simp only [Except.map, Columns.settle, Option.map_some]
    exact congrArg _ hsettled

/-- With its words settled an event does the same. -/
theorem respond_settled (st : Style) (s : RenderState) (e : Event) :
    respond st s.settled e.settled = (respond st s e).settled := by
  have halignment := cellAlignment_settled s
  obtain ⟨head, verbatim, columns, declared, index, even, pending, figure, caption, buffer⟩ := s
  cases e with
  | sectionStart n m | sectionEnd n | titleStart n m | titleEnd n =>
    cases head with
    | true => rfl
    | false =>
      simp only [respond, sectionStart, sectionEnd, titleStart, titleEnd, Reaction.outsideHead,
        Event.settled]
      cases inRange n <;> rfl
  | cellEnd => cases declared <;> rfl
  | cell k m w =>
    simp only [respond, cellAttributes, Event.settled, halignment]
    rfl
  | tableRows j grid => cases j <;> rfl
  | numberedList w m =>
    have hsettled := Token.oneOf_oneOf Token.numberings "decimal" w
    simp only [respond, numberedListAttributes, Event.settled, Token.numbering, hsettled]
    cases head <;> rfl
  | figure m => cases m <;> rfl
  | figureGraphics source m | figureCaption m =>
    cases m <;> rcases figure with _ | _ | _ <;> rfl
  | text | lineBreak | nonBreakingSpace | horizontalRule | elementStart | elementEnd
  | numberedListEnd | verbatim | verbatimEnd | link | linkEnd | anchor | anchorEnd =>
    cases head <;> rfl
  | _ => rfl

theorem output_settled (st : Style) (s : RenderState) (es : List Event) :
    output st s.settled (es.map Event.settled) = output st s es := by
  induction es generalizing s with
  | nil => rfl
  | cons e es ih =>
    have hr := respond_settled st s e
    have hlate : transition st s.settled e.settled = (transition st s e).settled := by
      rw [← respond_late, ← respond_late, hr]
      rfl
    rw [List.map_cons, output, output, hr, hlate, ih]
    rfl

end Render

/-! ## Runs -/

/-- Whether a sink with options finds whatever an event may look up. -/
structure Sink.Finds (o : Options) (k : Sink) : Prop where
  column : k.state.FindsColumn
  names : ∀ s : Scope, k.options.allowedIn s.key = .ok (o.allowed s)
  allowed : ∀ s, k.style.allowed s = some (o.allowed s)

/-- A sink with options and an open buffer that counts cells from zero upwards. -/
structure Sink.Sound (o : Options) (k : Sink) : Prop where
  ready : k.Ready
  options : k.options = .full o
  cells : 0 ≤ k.state.cellIndex

section
variable {o : Options} {k : Sink} (h : k.Sound o)
include h

theorem Sink.Sound.finds : k.Finds o where
  column := RenderState.finds_column h.cells
  names s := by rw [h.options, SinkOptions.allowedIn_key]
  allowed s := by rw [Sink.style, if_pos h.ready.vocabulary, h.options]; rfl

theorem Sink.Sound.event (e : Event) :
    (k.event e).result = .ok () ∧ (k.event e).after.Sound o := by
  obtain ⟨hr, hready, -⟩ := h.ready.event (Render.lookupFault?_none h.cells e)
  obtain ⟨items, s, hkept⟩ := k.event_kept e
  exact ⟨hr, hready, by rw [hkept]; exact h.options, Sink.event_cellIndex h.cells e⟩

theorem Sink.Sound.run (es : List Event) : ∀ x ∈ steps Sink.event k es,
    x.before.Finds o ∧ x.outcome.result = .ok () ∧ x.outcome.after.Finds o := by
  induction es generalizing k with
  | nil => exact fun _ hx => (List.not_mem_nil hx).elim
  | cons e es ih =>
    obtain ⟨hr, hsound⟩ := h.event e
    rw [steps_cons, List.forall_mem_cons]
    exact ⟨⟨h.finds, hr, hsound.finds⟩, ih hsound⟩

end

/-- **No event fails on a buffer.** Send a sink over its own buffer any events in any order. At each
step cells are counted from zero upwards, a cell finds its column and every scope its names, and the
event goes well. The sink writes the same as with known words in place of the numberings and
alignments that are unknown. -/
theorem no_event_fails (o : Options) (es : List Event) :
    let k := Sink.inMemory o
    (∀ x ∈ steps Sink.event k es,
      x.before.Finds o ∧ x.outcome.result = .ok () ∧ x.outcome.after.Finds o) ∧
    ∃ t, (final Sink.event k es).value = .ok t ∧
      (final Sink.event k (es.map Event.settled)).value = .ok t := by
  intro k
  have hsound : k.Sound o := ⟨Sink.inMemory_ready o, rfl, Int.le_refl 0⟩
  have hrun (fs : List Event) := hsound.ready.run (Render.columnsFound_of_nonneg hsound.cells fs)
  obtain ⟨-, hready, htext⟩ := hrun es
  obtain ⟨-, hready', htext'⟩ := hrun (es.map Event.settled)
  have hsame := Render.output_settled k.style k.state es
  refine ⟨hsound.run es, _, hready.value, ?_⟩
  rw [hready'.value, htext', htext]
  exact congrArg _ (by rw [← hsame]; rfl)

end EventMarkup
