import EventMarkup.Proofs.InsertionOrder
import EventMarkup.Proofs.Output
import EventMarkup.Proofs.Provenance

/-!
# The two tags of a verbatim block

A verbatim block is written as two tags that share the attributes of the caller. The outer one has
all of them but the width and the request for a box, which gives it the class of the options; the
inner one has those of the outer one that say nothing of its place, and the width.

* `verbatim_writes`: the attributes of both tags, in order.
-/
namespace EventMarkup

open Render

namespace Render

/-- The attributes of the outer tag: those that are asked for but the width and the request for a
box, which sets the class. -/
theorem entries_verbatimContainer (st : Style) (request : Attributes) :
    (verbatimContainer st request).entries =
      let kept := request.entries.filter fun e => e.1 ∉ ["decoration", "width"]
      if request.get? "decoration" = some "boxed" then
        if "class" ∈ request.keys then
          kept.map fun e => if e.1 = "class" then ("class", st.sourceClass) else e
        else kept ++ [("class", st.sourceClass)]
      else kept := by
  have hboxed : request.has "decoration" "boxed" = true ↔
      request.get? "decoration" = some "boxed" := by
    simp [Attributes.has]
  have hclass : "class" ∈ (request.eraseAll ["decoration", "width"]).keys ↔
      "class" ∈ request.keys := by
    rw [OrderedMap.mem_keys_eraseAll, and_iff_left (by decide)]
  unfold verbatimContainer
  by_cases hbox : request.get? "decoration" = some "boxed"
  · rw [if_pos (hboxed.mpr hbox), if_pos hbox, OrderedMap.eraseAll,
      OrderedMap.filter_insert (by decide)]
    show ((request.eraseAll ["decoration", "width"]).insert "class" st.sourceClass).entries = _
    rw [OrderedMap.entries_insert, OrderedMap.entries_eraseAll]
    simp only [hclass]
  · rw [if_neg (mt hboxed.mp hbox), if_neg hbox, OrderedMap.entries_eraseAll]

/-- The attributes of the inner tag: those of the outer one that say nothing of its place, and the
width. -/
theorem entries_verbatimContent {container : Attributes} (h : "width" ∉ container.keys)
    (request : Attributes) :
    (verbatimContent container request).entries =
      container.entries.filter (fun e => e.1 ∉ ["align", "class", "id"]) ++
        optionally "width" (request.get? "width") := by
  have hnew : "width" ∉ (container.eraseAll ["align", "class", "id"]).keys := fun hw =>
    h (OrderedMap.mem_keys_eraseAll.mp hw).1
  unfold verbatimContent
  cases request.get? "width" with
  | none => rw [OrderedMap.entries_eraseAll, optionally, List.append_nil]
  | some w =>
    rw [OrderedMap.entries_insert, if_neg hnew, OrderedMap.entries_eraseAll]
    rfl

theorem not_mem_verbatimContainer (st : Style) (request : Attributes) {n : String}
    (hn : n ∈ ["decoration", "width"]) : n ∉ (verbatimContainer st request).keys :=
  fun h => (OrderedMap.mem_keys_eraseAll.mp h).2 hn

end Render

/-- A verbatim block starts in every state outside of a head, even if its tags are not written. -/
theorem Sink.verbatim_state {k : Sink} (hv : k.vocabulary = .everything)
    (hs : k.state.headMode = false) (m : Mapping) (boxed : Bool) :
    (k.event (.verbatim m boxed)).after.state = { k.state with verbatimMode := true } := by
  rw [event_eq_perform hv rfl, respond, outsideHead_of_flow hs]
  simp only [perform]
  split <;> rfl

/-- **Verbatim blocks.** Outside of a head a verbatim block starts with two tags, whatever the
attributes of the caller. What is asked for is all that the options let through, and a box if the
block is to be boxed. The outer tag has what is asked for without the width and the decoration; if a
box is asked for, its class is that of the options, in the place of a class that is asked for, else
at the end. The inner tag has the attributes of the outer one without alignment, class and
identifier, and the width at the end if one is asked for. Neither tag has a decoration, and whatever
becomes of the tags, text is verbatim from here on. -/
theorem verbatim_writes {k : Sink} (hv : k.vocabulary = .everything)
    (hs : k.state.headMode = false) (m : Mapping) (boxed : Bool) :
    let st := k.style
    let allowed := st.admitted .verbatim m
    let request := if boxed then allowed.insert "decoration" "boxed" else allowed
    let kept := request.entries.filter fun e => e.1 ∉ ["decoration", "width"]
    ∃ outer inner : Attributes,
      k.Prints (.verbatim m boxed) [st.startTag "div" outer, st.startTag "pre" inner] ∧
      outer.entries =
        (if request.get? "decoration" = some "boxed" then
          if "class" ∈ request.keys then
            kept.map fun e => if e.1 = "class" then ("class", st.sourceClass) else e
          else kept ++ [("class", st.sourceClass)]
        else kept) ∧
      inner.entries = outer.entries.filter (fun e => e.1 ∉ ["align", "class", "id"]) ++
        optionally "width" (request.get? "width") ∧
      "decoration" ∉ outer.keys ∧ "decoration" ∉ inner.keys ∧
      (k.event (.verbatim m boxed)).after.state.verbatimMode = true := by
  intro st allowed request kept
  have hwidth := not_mem_verbatimContainer st request (n := "width") (by decide)
  have hdecoration := not_mem_verbatimContainer st request (n := "decoration") (by decide)
  have hinner := entries_verbatimContent hwidth request
  refine ⟨verbatimContainer st request, verbatimContent (verbatimContainer st request) request,
    (Sink.flow_writes hv hs rfl rfl).prints, entries_verbatimContainer st request, hinner,
    hdecoration, ?_, by rw [Sink.verbatim_state hv hs]⟩
  rw [OrderedMap.keys, hinner, List.map_append, List.mem_append, not_or]
  refine ⟨fun h => hdecoration ?_, ?_⟩
  · exact (List.filter_sublist.map Prod.fst).subset h
  · cases request.get? "width" <;> simp [optionally]

def namelessBlocks : Options :=
  { Options.usual with
    overrides := [(.verbatim, ["title", "width", "class", "decoration", "align"])] }

/-- A box takes the place of the class that is asked for; the width and the title reach the text. -/
theorem boxedBlock_writes :
    let k := Sink.inMemory namelessBlocks
    let m : Mapping := .ofList [("width", .integer 80), ("class", .text "mine"), ("id", .text "x"),
      ("align", .text "left"), ("decoration", .text "none"), ("title", .text "a < b")]
    (k.vocabulary = .everything ∧ k.state.headMode = false) ∧
      k.Prints (.verbatim m true)
        ["<div class=\"source\" align=\"left\" title=\"a &lt; b\">",
          "<pre title=\"a &lt; b\" width=\"80\">"] := by
  intro k m
  obtain ⟨outer, inner, hwrites, houter, hinner, -⟩ :=
    verbatim_writes (k := k) rfl rfl m true
  have hdiv : outer = .ofList [("class", "source"), ("align", "left"), ("title", "a < b")] :=
    OrderedMap.ext (houter.trans (by decide +kernel))
  have hpre : inner = .ofList [("title", "a < b"), ("width", "80")] := by
    rw [hdiv] at hinner
    exact OrderedMap.ext (hinner.trans (by decide +kernel))
  have htags : [k.style.startTag "div" outer, k.style.startTag "pre" inner] =
      ["<div class=\"source\" align=\"left\" title=\"a &lt; b\">",
        "<pre title=\"a &lt; b\" width=\"80\">"] := by
    rw [hdiv, hpre]
    decide +kernel
  exact ⟨⟨rfl, rfl⟩, htags ▸ hwrites⟩

end EventMarkup
