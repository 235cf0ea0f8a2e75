import EventMarkup.Proofs.InsertionOrder
import EventMarkup.Proofs.Output
import EventMarkup.Proofs.Provenance
import Mathlib.Data.List.Nodup

/-!
# The attributes of a link

A link brings its destination, a target if there is one and a class if the destination is external.
The attributes of the caller follow, save for those whose names the link has written already: the
destination is never his, his target is the one to fall back on, and his class goes in the place of
the one that an external link brings.

* `Style.entries_others`: what a scope lets through, in the order of the caller.
* `Render.entries_linkAttributes`: the attributes of a link one after the other.
* `link_writes`: what a link writes in every state.
-/
namespace EventMarkup

open Render

/-- What a style lets through of a mapping in a scope, in order and as texts, without some names. -/
def Style.others (st : Style) (s : Scope) (m : Mapping) (without : List String) :
    List (String × String) :=
  (m.entries.filter fun e => st.lets s e.1 && !without.contains e.1).map fun e =>
    (e.1, e.2.toText)

theorem Style.entries_admitted (st : Style) (s : Scope) (m : Mapping) :
    (st.admitted s m).entries =
      (m.entries.filter fun e => st.lets s e.1).map fun e => (e.1, e.2.toText) := by
  unfold admitted lets
  cases st.allowed s with
  | none => rw [List.filter_true]; rfl
  | some names => exact List.filter_map

theorem Style.entries_others (st : Style) (s : Scope) (m : Mapping) (without : List String) :
    ((st.admitted s m).eraseAll without).entries = st.others s m without := by
  show (st.admitted s m).entries.filter (fun e => !without.contains e.1) = _
  rw [entries_admitted, List.filter_map, List.filter_filter, others]
  simp only [Function.comp_apply, Bool.and_comm]

theorem Style.filter_others (st : Style) (s : Scope) (m : Mapping) {without names all : List String}
    (h : ∀ n, n ∈ all ↔ n ∈ without ∨ n ∈ names) :
    (st.others s m without).filter (fun e => e.1 ∉ names) = st.others s m all := by
  unfold others
  rw [List.filter_map, List.filter_filter]
  refine congrArg _ (List.filter_congr fun e _ => ?_)
  have hname := h e.1
  by_cases hl : st.lets s e.1 = true <;> by_cases hw : e.1 ∈ without <;>
    by_cases hn : e.1 ∈ names <;> simp_all

namespace Render

variable (st : Style) (href : String) (m : Mapping) (target : Value)

theorem nodup_linkOwn : ((st.linkOwn href m target).map Prod.fst).Nodup := by
  unfold Style.linkOwn
  cases Link.isExternal href <;> cases st.targetOf m target <;> simp [optionally]

theorem get?_linkOwn :
    let own := OrderedMap.ofList (st.linkOwn href m target)
    own.get? "href" = some (Link.destination href) ∧
      own.get? "target" = st.targetOf m target ∧
      own.get? "class" = if Link.isExternal href then some st.externalLinkClass else none := by
  unfold Style.linkOwn
  cases Link.isExternal href <;> cases st.targetOf m target <;> exact ⟨rfl, rfl, rfl⟩

/-- The attributes of a link: a class if it is external, the destination, a target if there is one,
then the others of the caller in his order. -/
theorem entries_linkAttributes :
    (linkAttributes st href m target).entries =
      (if Link.isExternal href then
        [("class", (st.given .link m "class").getD st.externalLinkClass)] else []) ++
      ("href", Link.destination href) :: optionally "target" (st.targetOf m target) ++
      st.others .link m
        (if Link.isExternal href then ["href", "target", "class"] else ["href", "target"]) := by
  have hrest (n : String) : ((st.admitted .link m).eraseAll ["href", "target"]).get? n =
      if n ∈ ["href", "target"] then none else st.given .link m n := by
    rw [OrderedMap.get?_eraseAll, Style.get?_admitted]
  rw [linkAttributes_eq, OrderedMap.entries_merge, Style.entries_others, OrderedMap.keys,
    OrderedMap.entries_ofList (nodup_linkOwn st href m target)]
  congr 1
  · simp only [hrest]
    unfold Style.linkOwn
    cases Link.isExternal href <;> cases st.targetOf m target <;> simp [optionally]
  · refine st.filter_others .link m fun n => ?_
    unfold Style.linkOwn
    cases Link.isExternal href <;> cases st.targetOf m target <;> simp [optionally] <;> grind

end Render

/-! ## What a link writes -/

theorem Link.destination_eq (href : String) : destination href =
    if isExternal href ∨ isOtherPage href then href
    else "#" ++ String.ofList (dropMarker href.toList) := by
  have hmark (cs : List Char) : String.ofList ('#' :: cs) = "#" ++ String.ofList cs := by
    rw [← List.singleton_append, String.ofList_append]
  unfold destination
  rw [hmark]
  simp only [Bool.or_eq_true]

theorem Style.targetOf_isSome {st : Style} {m : Mapping} {target : Value} :
    (st.targetOf m target).isSome ↔
      target ≠ .absent ∨ st.lets .link "target" = true ∧ "target" ∈ m.keys := by
  have hgiven : (st.given .link m "target").isSome ↔
      st.lets .link "target" = true ∧ "target" ∈ m.keys := by
    have hkeys := OrderedMap.get?_eq_none_iff (m := m) (n := "target")
    unfold given
    cases st.lets .link "target" <;> cases h : m.get? "target" <;> simp_all
  cases target <;> simp [targetOf, hgiven]

/-- **Links.** Outside of a head a link writes one tag, whatever its destination, the attributes of
the caller and the target. It has one destination: the one given if that is external or another
page, else a number sign and the one given without a number sign in front. It has a target just if
one is given or let through among the attributes, and the one given goes first. Its class is that of
the caller if it is let through, else that of the options if the destination is external, else there
is none. What the link brings comes first, and all others that the caller gives and the options let
through follow in his order, with the texts of their values. -/
theorem link_writes {k : Sink} (hv : k.vocabulary = .everything) (hs : k.state.headMode = false)
    (href : String) (m : Mapping) (target : Value) :
    let st := k.style
    let external := Link.isExternal href
    let class? := (st.given .link m "class").or
      (if external then some st.externalLinkClass else none)
    let destination := if external ∨ Link.isOtherPage href then href
      else "#" ++ String.ofList (Link.dropMarker href.toList)
    ∃ a : Attributes, k.Prints (.link href m target) [st.startTag "a" a] ∧
      (a.keys.count "href" = 1 ∧ a.get? "href" = some destination) ∧
      ("target" ∈ a.keys ↔
        target ≠ .absent ∨ st.lets .link "target" = true ∧ "target" ∈ m.keys) ∧
      a.get? "target" = st.targetOf m target ∧
      a.get? "class" = class? ∧
      a.entries =
        (if external then optionally "class" class? else []) ++
          ("href", destination) :: optionally "target" (st.targetOf m target) ++
          st.others .link m
            (if external then ["href", "target", "class"] else ["href", "target"]) := by
  intro st external class? destination
  obtain ⟨hownHref, hownTarget, hownClass⟩ := get?_linkOwn st href m target
  have htext (name : String) := text_link st k.state ∅ m name href target
  have hdestination : Link.destination href = destination := Link.destination_eq href
  have hhref : (linkAttributes st href m target).get? "href" = some destination :=
    (htext "href").trans (hownHref.trans (congrArg some hdestination))
  have htarget : (linkAttributes st href m target).get? "target" = st.targetOf m target :=
    (htext "target").trans hownTarget
  have hclass : (linkAttributes st href m target).get? "class" = class? :=
    (htext "class").trans (congrArg _ hownClass)
  refine ⟨linkAttributes st href m target, ?_, ⟨?_, hhref⟩, ?_, htarget, hclass, ?_⟩
  · exact (Sink.flow_writes hv hs rfl rfl).prints
  · refine List.count_eq_one_of_mem (linkAttributes st href m target).nodup ?_
    by_contra hnone
    rw [OrderedMap.get?_eq_none_iff.mpr hnone] at hhref
    cases hhref
  · rw [← Style.targetOf_isSome, ← htarget, Option.isSome_iff_ne_none, ne_eq,
      OrderedMap.get?_eq_none_iff, not_not]
  · rw [entries_linkAttributes, hdestination]
    unfold class? external
    cases hexternal : Link.isExternal href with
    | true => cases st.given .link m "class" <;> rfl
    | false => rfl

def openLinks : Options :=
  { Options.usual with overrides := [(.link, ["target", "href", "rel", "class"])] }

/-- A destination and a target among the attributes give way, and so does the class of the
options. -/
theorem givenDestination_dropped :
    let k := Sink.inMemory openLinks
    let m : Mapping := .ofList [("rel", .text "up"), ("href", .text "#near"), ("id", .text "x"),
      ("class", .text "far"), ("target", .text "left"), ("title", .absent)]
    (k.vocabulary = .everything ∧ k.state.headMode = false) ∧
      k.Prints (.link "HTTP://far.org/" m (.integer 1))
        ["<a class=\"far\" href=\"HTTP://far.org/\" target=\"1\" rel=\"up\">"] := by
  intro k m
  obtain ⟨a, hwrites, -, -, -, -, hentries⟩ :=
    link_writes (k := k) rfl rfl "HTTP://far.org/" m (.integer 1)
  have ha : a = .ofList
      [("class", "far"), ("href", "HTTP://far.org/"), ("target", "1"), ("rel", "up")] :=
    OrderedMap.ext (hentries.trans (by decide +kernel))
  have htag : k.style.startTag "a" a =
      "<a class=\"far\" href=\"HTTP://far.org/\" target=\"1\" rel=\"up\">" := by
    rw [ha]
    decide +kernel
  exact ⟨⟨rfl, rfl⟩, htag ▸ hwrites⟩

end EventMarkup
