import EventMarkup.Proofs.Enclosure

/-!
# The grammar of accepted documents

A document is a sequence of items. An item is a leaf, or a start event, a document and the end event
of the same construct. What may stand where depends on the innermost start around it alone.

* `path_document_iff`: the events that lead from an enclosure back out of all its constructs are a
  document for each of the places in it, closed one after the other.
* `accepts_iff_document`: a fresh guard refuses none of the events and has no construct open in the
  end just if they are a document.
-/
namespace EventMarkup

/-- The events of a document in a place, given the innermost start event around it. -/
inductive Document : Option Event → List Event → Prop
  | nil {o : Option Event} : Document o []
  | leaf {o : Option Event} {e : Event} {rest : List Event} :
    Leaf e → fits o e = true → Document o rest → Document o (e :: rest)
  | construct {o : Option Event} {s f : Event} {inner rest : List Event} :
    Pair s f → fits o s = true → Document (some s) inner → Document o rest →
      Document o (s :: inner ++ f :: rest)

/-- The events that finish the document in the innermost place of an enclosure, close its construct,
finish the document around it, and so on to the end of the outermost document. -/
inductive Unwinds : List Event → List Event → Prop
  | outermost {es : List Event} : Document none es → Unwinds [] es
  | close {S : List Event} {s f : Event} {inner rest : List Event} :
    Document (some s) inner → Pair s f → Unwinds S rest → Unwinds (s :: S) (inner ++ f :: rest)

theorem Unwinds.leaf {S : List Event} {e : Event} {es : List Event} (he : Leaf e)
    (hf : fits S.head? e = true) (h : Unwinds S es) : Unwinds S (e :: es) := by
  cases h with
  | outermost hd => exact .outermost (.leaf he hf hd)
  | close hd hp hr => exact .close (.leaf he hf hd) hp hr

theorem Unwinds.construct {S : List Event} {s f : Event} {inner es : List Event} (hp : Pair s f)
    (hf : fits S.head? s = true) (hi : Document (some s) inner) (h : Unwinds S es) :
    Unwinds S (s :: inner ++ f :: es) := by
  cases h with
  | outermost hd => exact .outermost (.construct hp hf hi hd)
  | @close S t g inner' rest hd hq hr =>
    have hc := Unwinds.close (.construct hp hf hi hd) hq hr
    rwa [List.append_assoc] at hc

/-- A path that ends outside all constructs unwinds the enclosure that it starts in. -/
theorem Path.unwinds {S es : List Event} (h : Path S es []) : Unwinds S es := by
  generalize hT : ([] : List Event) = T at h
  induction h with
  | nil => subst hT; exact .outermost .nil
  | cons hm _ ih =>
    cases hm with
    | leaf he hf => exact (ih hT).leaf he hf
    | start hp hf =>
      -- the rest closes the new construct first: that end is where its document stops
      cases ih hT with
      | close hi hq hr => exact hr.construct hq hf hi
    | finish hp => exact .close .nil hp (ih hT)

theorem Document.path {o : Option Event} {es : List Event} (h : Document o es) :
    ∀ S : List Event, S.head? = o → Path S es S := by
  induction h with
  | nil => exact fun S _ => .nil
  | leaf he hf _ ih => exact fun S hS => .cons (.leaf he (hS ▸ hf)) (ih S hS)
  | @construct o s f inner rest hp hf _ _ ihi ihr =>
    intro S hS
    have hin : Path (s :: S) inner (s :: S) := ihi (s :: S) rfl
    exact .cons (.start hp (hS ▸ hf)) (hin.append (.cons (.finish hp) (ihr S hS)))

/-- How an event may stand in a document: as the end of a construct that starts there, or where it
fits, in the place of the document or within a start event there. -/
def Placed (o : Option Event) (es : List Event) (e : Event) : Prop :=
  (∃ s ∈ es, Pair s e) ∨
    (Leaf e ∨ ∃ f, Pair e f) ∧ ∃ q, (q = o ∨ ∃ s ∈ es, q = some s) ∧ fits q e = true

section
variable {o : Option Event} {s e : Event} {es fs : List Event}

theorem Placed.mono (h : Placed o es e) (hsub : es ⊆ fs) : Placed o fs e := by
  rcases h with ⟨s, hs, hp⟩ | ⟨hkind, q, hq | ⟨s, hs, hq⟩, hfit⟩
  · exact Or.inl ⟨s, hsub hs, hp⟩
  · exact Or.inr ⟨hkind, q, Or.inl hq, hfit⟩
  · exact Or.inr ⟨hkind, q, Or.inr ⟨s, hsub hs, hq⟩, hfit⟩

/-- What may stand within a start event may stand in the document around it. -/
theorem Placed.around (h : Placed (some s) es e) (hs : s ∈ fs) (hsub : es ⊆ fs) :
    Placed o fs e := by
  rcases h.mono hsub with hend | ⟨hkind, q, rfl | hin, hfit⟩
  · exact Or.inl hend
  · exact Or.inr ⟨hkind, _, Or.inr ⟨s, hs, rfl⟩, hfit⟩
  · exact Or.inr ⟨hkind, q, Or.inr hin, hfit⟩

theorem Document.placed (hd : Document o es) (he : e ∈ es) : Placed o es e := by
  induction hd with
  | nil => cases he
  | leaf hl hf _ ih =>
    rcases List.mem_cons.mp he with rfl | he
    · exact Or.inr ⟨Or.inl hl, _, Or.inl rfl, hf⟩
    · exact (ih he).mono (List.subset_cons_self _ _)
  | @construct o s f inner rest hp hf _ _ ihi ihr =>
    have hs : s ∈ s :: inner ++ f :: rest := by simp
    have hinner : inner ⊆ s :: inner ++ f :: rest := fun x hx => by simp [hx]
    have hrest : rest ⊆ s :: inner ++ f :: rest := fun x hx => by simp [hx]
    rw [List.mem_append, List.mem_cons, List.mem_cons] at he
    rcases he with (rfl | he) | rfl | he
    · exact Or.inr ⟨Or.inr ⟨f, hp⟩, o, Or.inl rfl, hf⟩
    · exact (ihi he).around hs hinner
    · exact Or.inl ⟨s, hs, hp⟩
    · exact (ihr he).mono hrest

end

theorem path_document_iff {es : List Event} : Path [] es [] ↔ Document none es := by
  constructor
  · intro h
    cases h.unwinds with
    | outermost hd => exact hd
  · exact fun h => h.path [] rfl

theorem openConstructs_nil_iff {s : Session} {g : Guard} (h : s.guards = [g]) :
    s.openConstructs = .ok [] ↔ g = [] := by
  simp [Session.openConstructs, h, Guard.names]

/-- **The grammar of a guard.** Over a sink that knows the events, a fresh guard refuses none of
them and has no construct open in the end just if they are a document. -/
theorem accepts_iff_document (k : Sink) (es : List Event)
    (hk : ∀ e ∈ es, k.vocabulary.knows e = true) :
    ((∀ x ∈ steps Session.event (.start k 1) es, x.refused = false) ∧
        ((Session.start k 1).run (es.map .event)).openConstructs = .ok []) ↔
      Document none es := by
  rw [← path_document_iff, Session.run_events]
  constructor
  · rintro ⟨hr, ho⟩
    obtain ⟨T, g, hp, hT, hg⟩ := path_of_run .nil hk hr
    obtain rfl := (openConstructs_nil_iff hg).mp ho
    cases hT
    exact hp
  · intro hp
    obtain ⟨hr, g, hT, hg⟩ := hp.run .nil hk
    cases hT
    exact ⟨hr, (openConstructs_nil_iff hg).mpr rfl⟩

def nestedTables : List Event :=
  [.sectionStart 9 ∅, .table ∅, .tableRows none true, .tableRow ∅, .cell .data ∅ .absent,
    .table ∅, .tableEnd, .cellEnd .data, .tableRowEnd, .tableRowsEnd, .tableEnd, .sectionEnd 9]

def crossedLink : List Event :=
  [.elementStart .paragraph ∅, .link "a" ∅ .absent, .elementEnd .paragraph, .linkEnd]

theorem nestedTables_document_crossedLink_not :
    Document none nestedTables ∧ ¬Document none crossedLink := by
  have hk : ∀ e, (Sink.inMemory .usual).vocabulary.knows e = true := fun _ => rfl
  refine ⟨(accepts_iff_document (.inMemory .usual) nestedTables fun e _ => hk e).mp ?_, fun h => ?_⟩
  · exact ⟨by decide, by decide⟩
  · have ha := (accepts_iff_document (.inMemory .usual) crossedLink fun e _ => hk e).mpr h
    exact absurd ha (by decide)

end EventMarkup
