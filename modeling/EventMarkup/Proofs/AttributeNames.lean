import EventMarkup.Proofs.Fragments
import EventMarkup.Proofs.Transition

/-!
# The names of the attributes written

Every attribute that an event writes has a name that its options let through or one of the few that
events bring themselves (`ownNames`). So if all of these have some property, the names written have
it too (`Options.Names`): they are bare, or free of angle brackets.
-/
namespace EventMarkup

def Attributes.Named (p : String → Prop) (a : Attributes) : Prop := ∀ x ∈ a.keys, p x

/-- The names of the attributes that events write whatever their options let through. -/
def Render.ownNames : List String :=
  ["class", "style", "decoration", "width", "align", "border", "src", "href", "target", "name"]

/-- Every name that options let through, and every name that events bring themselves, has a
property. -/
structure Options.Names (o : Options) (p : String → Prop) : Prop where
  allowed : ∀ s, ∀ n ∈ o.allowed s, p n
  own : ∀ n ∈ Render.ownNames, p n

/-- A character of written attributes is a mark around them, or it comes from a name or from an
escaped value. -/
theorem Tag.mem_attributes {c : Char} {a : Attributes} (h : c ∈ (Tag.attributes a).toList) :
    c ∈ [' ', '=', '\x22'] ∨ (∃ n ∈ a.keys, c ∈ n.toList) ∨ ∃ v, c ∈ (Text.escape v).toList := by
  obtain ⟨entries, hd⟩ := a
  simp only [OrderedMap.keys, Tag.attributes] at h ⊢
  clear hd
  induction entries with
  | nil => exact absurd h List.not_mem_nil
  | cons e entries ih =>
    rw [List.foldr_cons, String.toList_append, List.mem_append] at h
    rcases h with h | h
    · simp only [Tag.attributeText, String.toList_append, List.mem_append] at h
      rcases h with (((h | h) | h) | h) | h
      · exact Or.inl (by simp_all)
      · exact Or.inr (Or.inl ⟨e.1, List.mem_cons_self .., h⟩)
      · exact Or.inl (by simp_all)
      · exact Or.inr (Or.inr ⟨e.2, h⟩)
      · exact Or.inl (by simp_all)
    · rcases ih h with hmark | ⟨n, hn, hc⟩ | hv
      · exact Or.inl hmark
      · exact Or.inr (Or.inl ⟨n, List.mem_cons_of_mem _ hn, hc⟩)
      · exact Or.inr (Or.inr hv)

namespace Attributes.Named

variable {p : String → Prop} {a b : Attributes}

theorem empty : Attributes.Named p ∅ := fun x hx => by cases hx

theorem insert (h : a.Named p) {k : String} (hk : p k) (v : String) :
    Attributes.Named p (a.insert k v) := by
  intro x hx
  rcases OrderedMap.mem_keys_put.mp hx with rfl | hx
  · exact hk
  · exact h x hx

theorem filter (h : a.Named p) (f : String → Bool) :
    Attributes.Named p (OrderedMap.filter f a) := by
  intro x hx
  obtain ⟨e, he, rfl⟩ := List.mem_map.mp hx
  exact h _ (List.mem_map_of_mem (List.mem_filter.mp he).1)

theorem eraseAll (h : a.Named p) (ks : List String) : Attributes.Named p (a.eraseAll ks) :=
  h.filter _

theorem merge (h : a.Named p) (hb : b.Named p) : Attributes.Named p (a.merge b) := by
  obtain ⟨entries, hd⟩ := b
  simp only [Attributes.Named, OrderedMap.keys, OrderedMap.merge] at hb ⊢
  clear hd
  induction entries generalizing a with
  | nil => exact h
  | cons e entries ih =>
    rw [List.map_cons, List.forall_mem_cons] at hb
    exact ih (h.insert hb.1 e.2) hb.2

end Attributes.Named

namespace Options.Names

open Render

variable {p : String → Prop} {o : Options} (ho : o.Names p) (s : RenderState) (m : Mapping)
include ho

theorem admitted (c : Scope) : (o.style.admitted c m).Named p := by
  intro x hx
  obtain ⟨e, he, rfl⟩ := List.mem_map.mp hx
  exact ho.allowed c _ (by simpa using (List.mem_filter.mp he).2)

theorem sectionAttributes : (Render.sectionAttributes o.style m).Named p :=
  (Attributes.Named.empty.insert (ho.own _ (by decide)) _).merge (ho.admitted m _)

theorem numberedListAttributes (w : Option String) :
    (Render.numberedListAttributes o.style w m).Named p :=
  (ho.admitted m _).insert (ho.own _ (by decide)) _

theorem verbatimRequest (boxed : Bool) : (Render.verbatimRequest o.style m boxed).Named p := by
  unfold Render.verbatimRequest
  split
  · exact (ho.admitted m _).insert (ho.own _ (by decide)) _
  · exact ho.admitted m _

theorem verbatimContainer {st : Style} {request : Attributes} (h : request.Named p) :
    (Render.verbatimContainer st request).Named p := by
  unfold Render.verbatimContainer
  split
  · exact (h.insert (ho.own _ (by decide)) _).eraseAll _
  · exact h.eraseAll _

theorem verbatimContent {container request : Attributes} (h : container.Named p) :
    (Render.verbatimContent container request).Named p := by
  unfold Render.verbatimContent
  split
  · exact h.eraseAll _
  · exact (h.eraseAll _).insert (ho.own _ (by decide)) _

theorem tableAttributes {st : Style} {given : Attributes} (h : given.Named p) (grid : Bool) :
    (Render.tableAttributes st given grid).Named p := by
  have hu : ∀ {a : Attributes} {name : String} (t : String), a.Named p → name ∈ ownNames →
      (unlessGiven given name t a).Named p := fun t ha hn => by
    unfold unlessGiven
    split
    · exact ha
    · exact ha.insert (ho.own _ hn) t
  refine Attributes.Named.merge ?_ h
  exact hu _ (hu _ (hu _ .empty (by decide)) (by decide)) (by decide)

theorem rowAttributes : (Render.rowAttributes o.style s m).Named p :=
  (Attributes.Named.empty.insert (ho.own _ (by decide)) _).merge (ho.admitted m _)

theorem cellAttributes (width : Value) : (Render.cellAttributes o.style s m width).Named p := by
  refine Attributes.Named.merge ?_ (ho.admitted _ _)
  unfold cellAlignment
  split
  · exact Attributes.Named.empty.insert (ho.own _ (by decide)) _
  · exact .empty

theorem figureAttributes : (Render.figureAttributes o.style m).Named p := by
  simp only [Render.figureAttributes]
  split
  · exact ho.admitted m _
  · exact (ho.admitted m _).insert (ho.own _ (by decide)) _

theorem imageAttributes (source : String) (m : Option Mapping) :
    (Render.imageAttributes o.style source m).Named p :=
  (Attributes.Named.empty.insert (ho.own _ (by decide)) _).merge (ho.admitted _ _)

theorem centred : Render.centred.Named p :=
  Attributes.Named.empty.insert (ho.own _ (by decide)) _

theorem captionAttributes (m : Option Mapping) :
    Attributes.Named p (Render.centred.merge (o.style.admitted .basic (m.getD ∅))) :=
  ho.centred.merge (ho.admitted _ _)

theorem linkAttributes (href : String) (target : Value) :
    (Render.linkAttributes o.style href m target).Named p := by
  have hd : (linkDestination o.style href).Named p := by
    refine Attributes.Named.insert ?_ (ho.own _ (by decide)) _
    split
    · exact Attributes.Named.empty.insert (ho.own _ (by decide)) _
    · exact .empty
  refine Attributes.Named.merge ?_ ((ho.admitted m _).eraseAll _)
  split
  · exact hd
  · exact hd.insert (ho.own _ (by decide)) _

theorem anchorAttributes (name : Option String) :
    (Render.anchorAttributes o.style name m).Named p := by
  refine Attributes.Named.merge ?_ (ho.admitted m _)
  split
  · exact .empty
  · exact Attributes.Named.empty.insert (ho.own _ (by decide)) _

/-- The attributes that wait for the rows of a table. -/
theorem pendingTable {s : RenderState} (h : ∀ a ∈ s.pendingTable, a.Named p) (e : Event) :
    ∀ a ∈ (transition o.style s e).pendingTable, a.Named p := by
  simp only [transition_eq]
  cases e with
  | table m =>
    intro a ha
    obtain rfl := Option.some.inj ha
    exact ho.admitted m _
  | tableRows => exact fun _ ha => nomatch ha
  | _ => exact h

theorem awaitedAttributes {st : Style} {s : RenderState} (h : ∀ a ∈ s.pendingTable, a.Named p)
    (grid : Bool) : (Render.tableAttributes st (s.pendingTable.getD ∅) grid).Named p := by
  refine ho.tableAttributes ?_ grid
  cases hp : s.pendingTable with
  | none => exact .empty
  | some a => exact h a hp

end Options.Names

/-- Options whose names a reader can tell from markup: the qualifier has characters of tag names
only, and the attribute names let through hold neither quotes nor angle brackets. -/
structure Options.Readable (o : Options) : Prop where
  qualifier : ∀ q ∈ o.qualifier, q.toList.all isNameChar = true
  allowed : ∀ s, ∀ n ∈ o.allowed s, isBare n = true

theorem Options.Readable.names {o : Options} (ho : o.Readable) : o.Names (isBare · = true) :=
  ⟨ho.allowed, by decide⟩

end EventMarkup
