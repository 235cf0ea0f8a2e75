import EventMarkup.Proofs.Accepted
import EventMarkup.Proofs.Provenance
import EventMarkup.Proofs.SinkUse

/-!
# Attributes accounted for

What a caller gives an event is found in its tags, with few exceptions (`Event.withheld`). The
attributes of a table are given by one event and written by another, so what waits between the two
is followed through a run (`awaited`).

* `Render.caller_reached`: what is let through and not withheld is in one of the tags.
* `Sink.final_awaits`: the attributes of a table wait for its rows, whatever else happens.
* `attributes_accounted`: in every run each attribute that is written is accounted for.
-/
namespace EventMarkup

open Render

/-! ## What reaches the tags -/

/-- What a caller gives an event that reaches none of its tags, though a style lets it through. -/
def Event.withheld (st : Style) : Event → List String
  | .numberedList .. => ["style"]
  | .link .. => ["href", "target"]
  | .verbatim m boxed => if st.boxes m boxed then ["decoration", "class"] else ["decoration"]
  | _ => []

namespace Event

theorem reserved_subset (st : Style) (s : RenderState) (awaited : Mapping) {e : Event}
    (he : ∀ m boxed, e ≠ .verbatim m boxed) (n : String) :
    (e.provenance st s awaited n).reserved ⊆ e.withheld st := by
  cases e with
  | verbatim m boxed => exact absurd rfl (he m boxed)
  | numberedList | link => exact List.Subset.refl _
  | figure m => cases m <;> exact List.nil_subset _
  | figureGraphics | figureCaption =>
    simp only [provenance]
    split <;> exact List.nil_subset _
  | _ => exact List.nil_subset _

theorem verbatim_reserved (st : Style) (s : RenderState) (awaited : Mapping) (m : Mapping)
    (boxed : Bool) {name : String} (h : name ∉ (Event.verbatim m boxed).withheld st) :
    let sides := (Event.verbatim m boxed).provenance st s awaited
    name ∉ (sides "div").reserved ∨ name ∉ (sides "pre").reserved := by
  intro sides
  by_cases hwidth : name = "width"
  · subst hwidth
    exact Or.inr (by simp [sides, provenance])
  · refine Or.inl ?_
    simp only [withheld] at h
    cases hbox : st.boxes m boxed <;> simp_all [sides, provenance]

theorem verbatim_caller (st : Style) (s : RenderState) (awaited : Mapping) (m : Mapping)
    (boxed : Bool) (n : String) :
    let sides := (Event.verbatim m boxed).provenance st s awaited n
    sides.given = m ∧ sides.scope = .verbatim := by
  intro sides
  simp only [sides, provenance]
  split
  · split <;> exact ⟨rfl, rfl⟩
  · exact ⟨rfl, rfl⟩

end Event

namespace Render

theorem verbatim_tags {st : Style} {s : RenderState} {m : Mapping} {boxed : Bool}
    {t : String × Attributes} (ht : t ∈ (parts st s (.verbatim m boxed)).filterMap Part.tag?) :
    ∃ outer inner, (parts st s (.verbatim m boxed)).filterMap Part.tag? =
      [("div", outer), ("pre", inner)] := by
  simp only [parts, Part.outsideHead] at ht ⊢
  split at ht
  · cases ht
  · rename_i hhead
    rw [if_neg hhead]
    exact ⟨_, _, rfl⟩

/-- What a caller gives an event is in one of its tags, if a style lets it through there and the
event does not withhold it. -/
theorem caller_reached {st : Style} {s : RenderState} {awaited : Mapping} {e : Event}
    (haccounts : ∀ t ∈ (parts st s e).filterMap Part.tag?,
      (e.provenance st s awaited t.1).Accounts st t.2)
    {t : String × Attributes} (ht : t ∈ (parts st s e).filterMap Part.tag?) {name : String}
    {v : Value} (hgiven : (name, v) ∈ (e.provenance st s awaited t.1).given.entries)
    (hlets : st.lets (e.provenance st s awaited t.1).scope name = true)
    (hkept : name ∉ e.withheld st) :
    ∃ t' ∈ (parts st s e).filterMap Part.tag?, (name, v.toText) ∈ t'.2.entries := by
  cases e with
  | verbatim m boxed =>
    -- the two tags have one caller, and what one of them withholds is in the other
    obtain ⟨outer, inner, htags⟩ := verbatim_tags ht
    obtain ⟨hm, hscope⟩ := Event.verbatim_caller st s awaited m boxed t.1
    rw [hm] at hgiven
    rw [hscope] at hlets
    have hreach {t' : String × Attributes}
        (ht' : t' ∈ (parts st s (.verbatim m boxed)).filterMap Part.tag?)
        (hsay : name ∉ ((Event.verbatim m boxed).provenance st s awaited t'.1).reserved) :
        (name, v.toText) ∈ t'.2.entries := by
      obtain ⟨hm', hscope'⟩ := Event.verbatim_caller st s awaited m boxed t'.1
      exact (haccounts t' ht').caller name v ⟨by rwa [hm'], by rwa [hscope'], hsay⟩
    rw [htags] at hreach ⊢
    rcases Event.verbatim_reserved st s awaited m boxed hkept with hdiv | hpre
    · exact ⟨("div", outer), List.mem_cons_self, hreach List.mem_cons_self hdiv⟩
    · have hinner : ("pre", inner) ∈ [("div", outer), ("pre", inner)] :=
        List.mem_cons_of_mem _ List.mem_cons_self
      exact ⟨("pre", inner), hinner, hreach hinner hpre⟩
  | _ =>
    exact ⟨t, ht, (haccounts t ht).caller name v ⟨hgiven, hlets,
      fun hr => hkept (Event.reserved_subset st s awaited (fun _ _ => Event.noConfusion) t.1 hr)⟩⟩

end Render

/-! ## Runs -/

/-- What a caller gave the table whose rows are to come, after an event. -/
def Event.awaits (m : Mapping) : Event → Mapping
  | .table m' => m'
  | .tableRows .. => ∅
  | _ => m

/-- What a caller gave the table whose rows are to come after events. -/
def awaited (es : List Event) : Mapping := es.foldl Event.awaits ∅

namespace Sink

/-- The attributes of a table wait for its rows, whether or not events go well. -/
theorem event_awaits {k : Sink} (hv : k.vocabulary = .everything) {m : Mapping}
    (hm : k.state.pendingTable.getD ∅ = k.style.admitted .table m) (e : Event) :
    (k.event e).after.state.pendingTable.getD ∅ = k.style.admitted .table (e.awaits m) := by
  cases e with
  | table m' =>
    rw [event_eq_perform hv rfl]
    rfl
  | tableRows j grid =>
    rw [event_eq_perform hv rfl, Event.awaits, Style.admitted_empty]
    simp only [perform]
    split <;> rfl
  | _ =>
    -- no other event touches them, in either of the states that it may lead to
    refine Eq.trans ?_ hm
    rcases k.event_state_cases _ with h | h
    · rw [h]
    · rw [h, transition_eq]

theorem final_awaits {k : Sink} (hv : k.vocabulary = .everything) {m : Mapping}
    (hm : k.state.pendingTable.getD ∅ = k.style.admitted .table m) (es : List Event) :
    (final event k es).state.pendingTable.getD ∅ =
      k.style.admitted .table (es.foldl Event.awaits m) := by
  induction es generalizing k m with
  | nil => exact hm
  | cons e es ih =>
    have hrest := event_awaits hv hm e
    rw [← event_style k e] at hrest
    rw [final_cons, ih (by rw [event_vocabulary, hv]) hrest, event_style]
    rfl

end Sink

/-- **Attributes are accounted for.** Send a sink that renders all events, and for which no table
waits yet, any events in any order, whether or not they go well. What an event writes then are its
parts, and the attributes of each tag among them are accounted for: no name stands twice, each
attribute is one that the caller gives and the options let through where he has a say, with the text
of his value, or one that the construct brings itself; what the caller has a say in is all there,
and so is what the construct brings where he has none. All that the caller gives and the options let
through is in one of the tags, unless the event withholds it: the style of a numbered list, the
destination and the target of a link, the decoration of a verbatim block and its class if it is
boxed. -/
theorem attributes_accounted {k : Sink} (hv : k.vocabulary = .everything)
    (hp : k.state.pendingTable = none) (hc : 0 ≤ k.state.cellIndex) (es : List Event) (e : Event) :
    let st := k.style
    let sink := final Sink.event k es
    let ps := parts st sink.state e
    let sides := e.provenance st sink.state (awaited es)
    let tags := ps.filterMap Part.tag?
    sink.Prints e (ps.map (Part.write st.qualifier)) ∧
      (∀ t ∈ tags, (sides t.1).Accounts st t.2) ∧
      ∀ t ∈ tags, ∀ name v, (name, v) ∈ (sides t.1).given.entries →
        st.lets (sides t.1).scope name = true → name ∉ e.withheld st →
        ∃ t' ∈ tags, (name, v.toText) ∈ t'.2.entries := by
  intro st sink ps sides tags
  have hstyle : sink.style = st := Sink.final_style k es
  have hcells : 0 ≤ sink.state.cellIndex := Sink.final_cellIndex hc es
  have hwaits : sink.state.pendingTable.getD ∅ = st.admitted .table (awaited es) :=
    Sink.final_awaits hv (by rw [hp, Style.admitted_empty]; rfl) es
  have haccounts : ∀ t ∈ tags, (sides t.1).Accounts st t.2 := by
    intro t ht
    obtain ⟨x, hx, hxt⟩ := List.mem_filterMap.mp ht
    exact Provenance.accounts (Part.comes_tag (parts_provenance st hwaits e x hx) hxt)
  refine ⟨?_, haccounts, fun t ht name v hv hl hw => ?_⟩
  · have hwrites := Sink.event_writes ((Sink.final_vocabulary k es).trans hv)
      (lookupFault?_none hcells e)
    rw [respond_parts, hstyle] at hwrites
    exact hwrites.prints
  · exact caller_reached haccounts ht hv hl hw

def borderOnly : Options := { Options.usual with overrides := [(.table, ["border"])] }

/-- A border that the caller gives a table goes before the border that its rows declare, and a class
that is not let through makes way for that of the options. -/
theorem borderedTable_accounted :
    let k := Sink.inMemory borderOnly
    let m : Mapping := .ofList [("class", .text "mine"), ("border", .integer 7)]
    let sink := final Sink.event k [.table m, .tableCaption ∅]
    (k.vocabulary = .everything ∧ k.state.pendingTable = none ∧ 0 ≤ k.state.cellIndex) ∧
      sink.Prints (.tableRows none true)
        ["<table align=\"center\" class=\"bodyTable\" border=\"7\">"] ∧
      ((Event.tableRows none true).provenance k.style sink.state m "table").Accounts k.style
        (.ofList [("align", "center"), ("class", "bodyTable"), ("border", "7")]) := by
  intro k m sink
  have hattributes : tableAttributes k.style (sink.state.pendingTable.getD ∅) true =
      .ofList [("align", "center"), ("class", "bodyTable"), ("border", "7")] := by
    decide +kernel
  obtain ⟨hwrites, haccounts, -⟩ := attributes_accounted (k := k) rfl rfl (Int.le_refl 0)
    [.table m, .tableCaption ∅] (.tableRows none true)
  have htable := haccounts _ (List.mem_singleton.mpr rfl)
  have htag : (parts k.style sink.state (.tableRows none true)).map (Part.write k.style.qualifier) =
      ["<table align=\"center\" class=\"bodyTable\" border=\"7\">"] := by
    decide +kernel
  rw [hattributes] at htable
  rw [htag] at hwrites
  exact ⟨⟨rfl, rfl, Int.le_refl 0⟩, hwrites, htable⟩

end EventMarkup
