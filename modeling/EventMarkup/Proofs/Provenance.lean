import EventMarkup.Proofs.Lookup
import EventMarkup.Proofs.Parts

/-!
# Where attributes come from

Each tag that an event writes has its attributes from two sides: the caller, whose attributes a
scope lets through, save for names in which he has no say, and the construct, which brings some of
its own and gives way where the caller has a say (`Provenance`). What the sides are for a tag is
told by the event alone, but for the attributes of a table, which wait for its rows
(`Event.provenance`).

* `Provenance.accounts`: what an attribute comes to, told by the two sides, accounts for it.
* `Render.parts_provenance`: the attributes of each tag that an event writes come to that.
-/
namespace EventMarkup

open Render

/-- Where the attributes of a tag come from: what a caller gives in a scope, the names in which he
has no say, and what the construct brings itself. -/
structure Provenance where
  scope : Scope := .basic
  given : Mapping := ∅
  reserved : List String := []
  own : Attributes := ∅

namespace Provenance

/-- What an attribute comes to: what the caller has a say in, else what the construct brings. -/
def text (st : Style) (p : Provenance) (name : String) : Option String :=
  (if name ∈ p.reserved then none else st.given p.scope p.given name).or (p.own.get? name)

/-- The caller has a say in an attribute: it is let through, and not reserved. -/
def FromCaller (st : Style) (p : Provenance) (name : String) (v : Value) : Prop :=
  (name, v) ∈ p.given.entries ∧ st.lets p.scope name = true ∧ name ∉ p.reserved

/-- Attributes are accounted for: no name occurs twice, each attribute is one that the caller has a
say in, with the text of his value, or one that the construct brings; all of the first kind are
there, and all of the second for which there is none of the first. -/
structure Accounts (st : Style) (p : Provenance) (a : Attributes) : Prop where
  once : (a.entries.map Prod.fst).Nodup
  source : ∀ name t, (name, t) ∈ a.entries →
    (∃ v, p.FromCaller st name v ∧ t = v.toText) ∨ (name, t) ∈ p.own.entries
  caller : ∀ name v, p.FromCaller st name v → (name, v.toText) ∈ a.entries
  own : ∀ name t, (name, t) ∈ p.own.entries → (∀ v, ¬ p.FromCaller st name v) →
    (name, t) ∈ a.entries

variable {st : Style} {p : Provenance}

theorem say_eq_some_iff {name t : String} :
    (if name ∈ p.reserved then none else st.given p.scope p.given name) = some t ↔
      ∃ v, p.FromCaller st name v ∧ t = v.toText := by
  unfold Style.given FromCaller
  by_cases hr : name ∈ p.reserved
  · simp [hr]
  · by_cases hl : st.lets p.scope name = true
    · simp only [hr, hl, if_false, if_true, Option.map_eq_some_iff, OrderedMap.get?_eq_some_iff]
      simp [eq_comm]
    · simp [hr, hl]

theorem accounts {a : Attributes} (h : ∀ name, a.get? name = p.text st name) :
    p.Accounts st a where
  once := a.nodup
  source := by
    intro name t ht
    rw [← OrderedMap.get?_eq_some_iff, h, text, Option.or_eq_some_iff] at ht
    rcases ht with ht | ⟨-, ht⟩
    · exact Or.inl (say_eq_some_iff.mp ht)
    · exact Or.inr (OrderedMap.get?_eq_some_iff.mp ht)
  caller := by
    intro name v hv
    rw [← OrderedMap.get?_eq_some_iff, h, text, say_eq_some_iff.mpr ⟨v, hv, rfl⟩]
    rfl
  own := by
    intro name t ht hnone
    have hsay : (if name ∈ p.reserved then none else st.given p.scope p.given name) = none := by
      rw [Option.eq_none_iff_forall_ne_some]
      intro u hu
      obtain ⟨v, hv, -⟩ := say_eq_some_iff.mp hu
      exact hnone v hv
    rw [← OrderedMap.get?_eq_some_iff, h, text, hsay, Option.none_or]
    exact OrderedMap.get?_eq_some_iff.mpr ht

end Provenance

/-! ## The two sides of each tag -/

/-- Whether a box around verbatim text is asked for, by a flag or by an attribute let through. -/
def Style.boxes (st : Style) (m : Mapping) (boxed : Bool) : Bool :=
  boxed || st.given .verbatim m "decoration" == some "boxed"

/-- The target of a link: the one given, else the one that the style lets through. -/
def Style.targetOf (st : Style) (m : Mapping) : Value → Option String
  | .absent => st.given .link m "target"
  | v => some v.toText

/-- The attributes with some text for a name, if there is one. -/
def optionally (name : String) : Option String → List (String × String)
  | none => []
  | some t => [(name, t)]

/-- What a link brings itself, in order. -/
def Style.linkOwn (st : Style) (href : String) (m : Mapping) (target : Value) :
    List (String × String) :=
  optionally "class" (if Link.isExternal href then some st.externalLinkClass else none) ++
    ("href", Link.destination href) :: optionally "target" (st.targetOf m target)

/-- Where the attributes of a tag with a name come from that an event writes, given what a caller
gave the table whose rows are to come. -/
def Event.provenance (st : Style) (s : RenderState) (awaited : Mapping) (e : Event) (n : String) :
    Provenance :=
  match e with
  | .lineBreak m => { scope := .lineBreak, given := m }
  | .horizontalRule m => { scope := .rule, given := m }
  | .sectionStart _ m => { given := m, own := .ofList [("class", st.sectionClass)] }
  | .titleStart _ m => { scope := .heading, given := m }
  | .elementStart x m => { scope := x.scope, given := m }
  | .numberedList w m =>
    { scope := .heading
      given := m
      reserved := ["style"]
      own := .ofList [("style", "list-style-type: " ++ Token.numbering w)] }
  | .verbatim m boxed =>
    if n = "div" then
      if st.boxes m boxed then
        { scope := .verbatim
          given := m
          reserved := ["decoration", "width", "class"]
          own := .ofList [("class", st.sourceClass)] }
      else { scope := .verbatim, given := m, reserved := ["decoration", "width"] }
    else { scope := .verbatim, given := m, reserved := ["decoration", "align", "class", "id"] }
  | .tableRows _ grid =>
    { scope := .table
      given := awaited
      own := .ofList
        [("align", "center"), ("border", if grid then "1" else "0"), ("class", st.tableClass)] }
  | .tableRow m =>
    { scope := .row
      given := m
      own := .ofList [("class", if s.rowIsEven then st.oddClass else st.evenClass)] }
  | .cell _ m w => { scope := .cell, given := withWidth m w, own := cellAlignment s }
  | .tableCaption m => { scope := .heading, given := m }
  | .figure (some m) => { given := m, own := .ofList [("class", st.figureClass)] }
  | .figureGraphics source m =>
    if n = "img" then { scope := .image, given := m.getD ∅, own := .ofList [("src", source)] }
    else { own := .ofList [("align", "center")] }
  | .figureCaption m =>
    if n = "p" then { given := m.getD ∅, own := .ofList [("align", "center")] } else {}
  | .link href m target =>
    { scope := .link
      given := m
      reserved := ["href", "target"]
      own := .ofList (st.linkOwn href m target) }
  | .anchor name m =>
    let e := (name.map Text.toIdentifier).getD ""
    { given := m, own := if e = "" then ∅ else .ofList [("name", e)] }
  | _ => {}

namespace Part

/-- The name and the attributes of a tag that is not an end tag. -/
def tag? : Part → Option (String × Attributes)
  | start n a | single n a => some (n, a)
  | _ => none

/-- The attributes of a tag come to what its two sides say. -/
def Comes (st : Style) (p : String → Provenance) : Part → Prop
  | start n a | single n a => ∀ name, a.get? name = (p n).text st name
  | _ => True

theorem comes_tag {st : Style} {p : String → Provenance} {x : Part} (h : x.Comes st p)
    {t : String × Attributes} (ht : x.tag? = some t) (name : String) :
    t.2.get? name = (p t.1).text st name := by
  cases x with
  | start n a | single n a =>
    cases ht
    exact h name
  | _ => cases ht

end Part

namespace Render

variable (st : Style)

theorem text_given (c : Scope) (m : Mapping) (name : String) :
    (st.admitted c m).get? name = Provenance.text st { scope := c, given := m } name := by
  simp [Provenance.text, Style.get?_admitted]

theorem text_over (own : Attributes) (c : Scope) (m : Mapping) (name : String) :
    (own.merge (st.admitted c m)).get? name =
      Provenance.text st { scope := c, given := m, own := own } name := by
  simp [Provenance.text, OrderedMap.get?_merge, Style.get?_admitted]

theorem text_own (own : Attributes) (name : String) :
    own.get? name = Provenance.text st { own := own } name := by
  have hnone : st.given .basic ∅ name = none := by simp [Style.given]
  simp [Provenance.text, hnone]

section
variable (s : RenderState) (awaited : Mapping) (m : Mapping) (name : String)

theorem text_numberedList (w : Option String) :
    (numberedListAttributes st w m).get? name =
      ((Event.numberedList w m).provenance st s awaited "ol").text st name := by
  rw [numberedListAttributes, OrderedMap.get?_insert, Style.get?_admitted]
  by_cases h : name = "style"
  · subst h
    rfl
  · simp [Event.provenance, Provenance.text, OrderedMap.ofList, OrderedMap.get?_insert, h]

theorem has_decoration (boxed : Bool) :
    (verbatimRequest st m boxed).has "decoration" "boxed" = st.boxes m boxed := by
  cases boxed with
  | false =>
    rw [verbatimRequest, if_neg Bool.false_ne_true, Attributes.has, Style.get?_admitted,
      Style.boxes, Bool.false_or]
  | true => simp [verbatimRequest, Attributes.has, OrderedMap.get?_insert, Style.boxes]

theorem get?_request {n : String} (hn : n ≠ "decoration") (boxed : Bool) :
    (verbatimRequest st m boxed).get? n = st.given .verbatim m n := by
  unfold verbatimRequest
  split
  · rw [OrderedMap.get?_insert, if_neg hn, Style.get?_admitted]
  · rw [Style.get?_admitted]

/-- An attribute of the outer tag of a verbatim block: the class of the options in a box, else what
the caller gives, but no decoration and no width. -/
theorem get?_container (boxed : Bool) (n : String) :
    (verbatimContainer st (verbatimRequest st m boxed)).get? n =
      if n ∈ ["decoration", "width"] then none
      else if st.boxes m boxed ∧ n = "class" then some st.sourceClass
      else st.given .verbatim m n := by
  rw [verbatimContainer, has_decoration, OrderedMap.get?_eraseAll]
  by_cases hd : n ∈ ["decoration", "width"]
  · rw [if_pos hd, if_pos hd]
  · have hn : n ≠ "decoration" := fun h => hd (h ▸ List.mem_cons_self)
    rw [if_neg hd, if_neg hd]
    cases st.boxes m boxed <;> simp [OrderedMap.get?_insert, get?_request st m hn]

theorem text_container (boxed : Bool) :
    (verbatimContainer st (verbatimRequest st m boxed)).get? name =
      ((Event.verbatim m boxed).provenance st s awaited "div").text st name := by
  rw [get?_container]
  simp only [Event.provenance, if_true]
  cases st.boxes m boxed with
  | true =>
    grind [Provenance.text, OrderedMap.ofList, OrderedMap.get?_insert, OrderedMap.get?_empty]
  | false => grind [Provenance.text, OrderedMap.get?_empty]

theorem text_content (boxed : Bool) :
    (verbatimContent (verbatimContainer st (verbatimRequest st m boxed))
        (verbatimRequest st m boxed)).get? name =
      ((Event.verbatim m boxed).provenance st s awaited "pre").text st name := by
  have hwidth : (verbatimRequest st m boxed).get? "width" = st.given .verbatim m "width" :=
    get?_request st m (by decide) boxed
  have hrest := OrderedMap.get?_eraseAll (verbatimContainer st (verbatimRequest st m boxed))
    ["align", "class", "id"] name
  rw [get?_container] at hrest
  unfold verbatimContent
  rw [hwidth]
  cases hgiven : st.given .verbatim m "width" with
  | none => grind [Event.provenance, Provenance.text, OrderedMap.get?_empty]
  | some w =>
    grind [Event.provenance, Provenance.text, OrderedMap.get?_insert, OrderedMap.get?_empty]

theorem get?_unlessGiven (given a : Attributes) (n t : String) :
    (unlessGiven given n t a).get? name =
      if name = n ∧ given.get? n = none then some t else a.get? name := by
  have hcontains : given.contains n = true ↔ given.get? n ≠ none := by
    simp [OrderedMap.contains, OrderedMap.get?_eq_none_iff]
  unfold unlessGiven
  split
  · rename_i h
    rw [if_neg fun hn => hcontains.mp h hn.2]
  · rename_i h
    rw [hcontains, not_not] at h
    simp [OrderedMap.get?_insert, h]

theorem text_table (j : Option (List (Option String))) (grid : Bool) :
    (tableAttributes st (st.admitted .table awaited) grid).get? name =
      ((Event.tableRows j grid).provenance st s awaited "table").text st name := by
  have hgiven := Style.get?_admitted st .table awaited
  rw [tableAttributes, OrderedMap.get?_merge, hgiven]
  simp only [get?_unlessGiven, hgiven, Event.provenance, Provenance.text, OrderedMap.ofList]
  cases h : st.given .table awaited name with
  | none => grind [OrderedMap.get?_insert, OrderedMap.get?_empty]
  | some t => simp

theorem text_figure :
    (figureAttributes st m).get? name =
      ((Event.figure (some m)).provenance st s awaited "div").text st name := by
  have hgiven := Style.get?_admitted st .basic m
  show (unlessGiven (st.admitted .basic m) "class" st.figureClass (st.admitted .basic m)).get? name
    = _
  simp only [get?_unlessGiven, hgiven, Event.provenance, Provenance.text, OrderedMap.ofList]
  cases h : st.given .basic m name with
  | none => grind [OrderedMap.get?_insert, OrderedMap.get?_empty]
  | some t => grind

/-- A link brings its own attributes, and the caller overlays them with the others. -/
theorem linkAttributes_eq (href : String) (target : Value) :
    linkAttributes st href m target = (OrderedMap.ofList (st.linkOwn href m target)).merge
      ((st.admitted .link m).eraseAll ["href", "target"]) := by
  have htarget : linkTarget (st.admitted .link m) target = st.targetOf m target := by
    cases target <;> first | exact Style.get?_admitted st .link m "target" | rfl
  rw [linkAttributes, htarget]
  unfold linkDestination Style.linkOwn
  cases Link.isExternal href <;> cases st.targetOf m target <;> rfl

theorem text_link (href : String) (target : Value) :
    (linkAttributes st href m target).get? name =
      ((Event.link href m target).provenance st s awaited "a").text st name := by
  rw [linkAttributes_eq, OrderedMap.get?_merge, OrderedMap.get?_eraseAll, Style.get?_admitted]
  rfl

theorem text_anchor (id : Option String) :
    (anchorAttributes st id m).get? name =
      ((Event.anchor id m).provenance st s awaited "a").text st name :=
  text_over st _ .basic m name

end

/-- The attributes of each tag that an event writes come to what its two sides say. -/
theorem parts_provenance {s : RenderState} {awaited : Mapping}
    (hs : s.pendingTable.getD ∅ = st.admitted .table awaited) (e : Event) :
    ∀ x ∈ parts st s e, x.Comes st (e.provenance st s awaited) := by
  cases e with
  | text t m =>
    refine Part.forall_outsideHead ?_
    simp only [taggedParts, List.forall_mem_append, List.forall_mem_map, List.forall_mem_singleton]
    exact ⟨⟨fun _ _ => text_own st ∅, trivial⟩, fun _ _ => trivial⟩
  | sectionStart level m =>
    refine Part.forall_outsideHead ?_
    split
    · exact List.forall_mem_singleton.mpr (text_over st _ .basic m)
    · exact fun _ hx => (List.not_mem_nil hx).elim
  | titleStart level m =>
    refine Part.forall_outsideHead ?_
    split
    · exact List.forall_mem_singleton.mpr (text_given st .heading m)
    · exact fun _ hx => (List.not_mem_nil hx).elim
  | sectionEnd level | titleEnd level =>
    refine Part.forall_outsideHead ?_
    split <;> simp [Part.Comes]
  | lineBreak m | horizontalRule m | elementStart x m =>
    exact Part.forall_outsideHead (List.forall_mem_singleton.mpr (text_given st _ m))
  | numberedList w m =>
    exact Part.forall_outsideHead
      (List.forall_mem_singleton.mpr fun name => text_numberedList st s awaited m name w)
  | verbatim m boxed =>
    refine Part.forall_outsideHead (List.forall_mem_cons.mpr ⟨fun name => ?_,
      List.forall_mem_singleton.mpr fun name => ?_⟩)
    · exact text_container st s awaited m name boxed
    · exact text_content st s awaited m name boxed
  | link href m target =>
    exact Part.forall_outsideHead
      (List.forall_mem_singleton.mpr fun name => text_link st s awaited m name href target)
  | anchor id m =>
    exact Part.forall_outsideHead
      (List.forall_mem_singleton.mpr fun name => text_anchor st s awaited m name id)
  | nonBreakingSpace | elementEnd | numberedListEnd | verbatimEnd | linkEnd | anchorEnd =>
    refine Part.forall_outsideHead ?_
    simp [Part.Comes]
  | tableRows j grid =>
    refine List.forall_mem_singleton.mpr fun name => ?_
    rw [hs]
    exact text_table st s awaited name j grid
  | tableRow m => exact List.forall_mem_singleton.mpr (text_over st _ .row m)
  | cell k m w => exact List.forall_mem_singleton.mpr (text_over st _ .cell (withWidth m w))
  | tableCaption m => exact List.forall_mem_singleton.mpr (text_given st .heading m)
  | figure m =>
    cases m with
    | none => exact List.forall_mem_singleton.mpr trivial
    | some m => exact List.forall_mem_singleton.mpr fun name => text_figure st s awaited m name
  | figureGraphics source m =>
    have himage : Part.Comes st (Event.provenance st s awaited (.figureGraphics source m))
        (.single "img" (imageAttributes st source m)) := text_over st _ .image (m.getD ∅)
    simp only [parts]
    split
    · exact List.forall_mem_singleton.mpr trivial
    · split
      · exact List.forall_mem_cons.mpr ⟨text_own st centred, List.forall_mem_cons.mpr
          ⟨himage, List.forall_mem_singleton.mpr trivial⟩⟩
      · exact List.forall_mem_singleton.mpr himage
  | figureCaption m =>
    simp only [parts]
    split
    · exact List.forall_mem_singleton.mpr trivial
    · exact List.forall_mem_cons.mpr ⟨text_over st _ .basic (m.getD ∅),
        List.forall_mem_singleton.mpr (text_own st ∅)⟩
  | figureEnd | figureCaptionEnd =>
    simp only [parts]
    split <;> simp [Part.Comes]
  | _ => simp [parts, Part.Comes]

end Render

end EventMarkup
