import EventMarkup.Proofs.Steps
import Mathlib.Data.List.Forall2

/-!
# What stands around an event

The *enclosure* of a place in a document is the list of the start events of the constructs open
there, innermost first. `Moves` says what an event in order does to it: a leaf leaves it alone, a
start goes in front, an end takes away the start that it belongs to. Where an event may stand
depends on the innermost start alone (`fits`).

* `accept_moves`, `Moves.accept`: a guard whose open constructs are those of an enclosure accepts
  exactly the events that move the enclosure, and its constructs move along.
-/
namespace EventMarkup

/-- The events that neither open nor close a construct. -/
inductive Leaf : Event → Prop
  | text (t : String) (m : Mapping) : Leaf (.text t m)
  | lineBreak (m : Mapping) : Leaf (.lineBreak m)
  | nonBreakingSpace : Leaf .nonBreakingSpace
  | horizontalRule (m : Mapping) : Leaf (.horizontalRule m)
  | comment (t : String) : Leaf (.comment t)
  | pageBreak : Leaf .pageBreak
  | rawText (t : String) : Leaf (.rawText t)
  | figureGraphics (source : String) (m : Option Mapping) : Leaf (.figureGraphics source m)

/-- A start event and the end event of the same construct. The end of a section or a title repeats
the level of its start. -/
inductive Pair : Event → Event → Prop
  | head : Pair .head .headEnd
  | sectioning (n : Int) (m : Mapping) : Pair (.sectionStart n m) (.sectionEnd n)
  | title (n : Int) (m : Mapping) : Pair (.titleStart n m) (.titleEnd n)
  | element (x : Element) (m : Mapping) : Pair (.elementStart x m) (.elementEnd x)
  | numberedList (w : Option String) (m : Mapping) : Pair (.numberedList w m) .numberedListEnd
  | verbatim (m : Mapping) (b : Bool) : Pair (.verbatim m b) .verbatimEnd
  | table (m : Mapping) : Pair (.table m) .tableEnd
  | tableRows (j : Option (List (Option String))) (b : Bool) : Pair (.tableRows j b) .tableRowsEnd
  | tableRow (m : Mapping) : Pair (.tableRow m) .tableRowEnd
  | cell (x : CellKind) (m : Mapping) (w : Value) : Pair (.cell x m w) (.cellEnd x)
  | tableCaption (m : Mapping) : Pair (.tableCaption m) .tableCaptionEnd
  | figure (m : Option Mapping) : Pair (.figure m) .figureEnd
  | figureCaption (m : Option Mapping) : Pair (.figureCaption m) .figureCaptionEnd
  | link (href : String) (m : Mapping) (target : Value) : Pair (.link href m target) .linkEnd
  | anchor (name : Option String) (m : Mapping) : Pair (.anchor name m) .anchorEnd

/-- The construct that an event starts. -/
def Event.starts? : Event → Option Construct
  | .head => some .head
  | .sectionStart .. => some .sectioning
  | .titleStart .. => some .title
  | .elementStart x _ => some (.element x)
  | .numberedList .. => some .numberedList
  | .verbatim .. => some .verbatim
  | .table _ => some .table
  | .tableRows .. => some .tableRows
  | .tableRow _ => some .tableRow
  | .cell x .. => some (.cell x)
  | .tableCaption _ => some .tableCaption
  | .figure _ => some .figure
  | .figureCaption _ => some .figureCaption
  | .link .. => some .link
  | .anchor .. => some .anchor
  | _ => none

/-- Whether a place, given the innermost start event around it, is directly in a construct. -/
def inside (outer : Option Event) (c : Construct) : Bool := outer.bind Event.starts? = some c

/-- Whether an event may stand in a place, given the innermost start event around it: parts of
lists, tables and figures stand directly in their wholes, no table directly in a table, and no part
with attributes directly in a legacy figure. -/
def fits (outer : Option Event) : Event → Bool
  | .elementStart .listItem _ => inside outer (.element .unorderedList)
  | .elementStart .numberedItem _ => inside outer .numberedList
  | .elementStart .definedTerm _ | .elementStart .definition _ =>
    inside outer (.element .definitionList)
  | .table _ => !inside outer .table
  | .tableRows .. => inside outer .table
  | .tableRow _ => inside outer .tableRows
  | .cell .. => inside outer .tableRow
  | .tableCaption _ => inside outer .table || inside outer .tableRows
  | .figureGraphics _ m => m.isNone || outer ≠ some (.figure none)
  | .figureCaption m => inside outer .figure && (m.isNone || outer ≠ some (.figure none))
  | _ => true

/-- What an event in order does to the enclosure of its place. -/
inductive Moves : List Event → Event → List Event → Prop
  | leaf {S : List Event} {e : Event} : Leaf e → fits S.head? e = true → Moves S e S
  | start {S : List Event} {e f : Event} : Pair e f → fits S.head? e = true → Moves S e (e :: S)
  | finish {S : List Event} {s e : Event} : Pair s e → Moves (s :: S) e S

/-- The enclosure after an event, in order or not. -/
def enclose (S : List Event) (e : Event) : List Event :=
  match e.nesting with
  | .leaf => S
  | .opens _ => e :: S
  | .closes .. => S.tail

/-- The start events of the constructs that are open after events, innermost first. -/
def enclosure (es : List Event) : List Event := es.foldl enclose []

theorem enclosure_concat (es : List Event) (e : Event) :
    enclosure (es ++ [e]) = enclose (enclosure es) e := by
  rw [enclosure, List.foldl_append]
  rfl

/-- Whether the start events of an enclosure open a construct. -/
def opened (S : List Event) (k : Construct) : Bool := S.any fun e => e.starts? = some k

@[simp] theorem opened_nil (k : Construct) : opened [] k = false := rfl

@[simp] theorem opened_cons (e : Event) (S : List Event) (k : Construct) :
    opened (e :: S) k = (decide (e.starts? = some k) || opened S k) := rfl

/-! ## Guards and enclosures -/

/-- A start event opens a construct. -/
def Opens (s : Event) (c : OpenConstruct) : Prop := s.nesting = .opens c

/-- The constructs that a guard knows are those that the start events of an enclosure open. -/
abbrev Matches (S : List Event) (g : Guard) : Prop := List.Forall₂ Opens S g

theorem Opens.starts {s : Event} {c : OpenConstruct} (h : Opens s c) :
    s.starts? = some c.construct := by
  cases s <;> cases h <;> rfl

theorem Opens.legacy_iff {s : Event} {c : OpenConstruct} (h : Opens s c) :
    c.convention = some .legacy ↔ s = .figure none := by
  cases s with
  | figure m => cases h; cases m <;> simp [conventionOf]
  | _ => cases h <;> simp

section
variable {S : List Event} {g : Guard}

theorem Matches.inside_iff (h : Matches S g) (k : Construct) :
    inside S.head? k = true ↔ g.head?.map (·.construct) = some k := by
  cases h with
  | nil => simp [inside]
  | cons hs _ => simp [inside, hs.starts]

theorem Matches.legacy_iff (h : Matches S g) :
    g.head?.bind (·.convention) = some .legacy ↔ S.head? = some (.figure none) := by
  cases h with
  | nil => simp
  | cons hs _ => simpa using hs.legacy_iff

theorem Matches.admits_iff (h : Matches S g) (c : Construct) :
    g.admits c = true ↔ ∀ ps, c.parents = some ps → ∃ p ∈ ps, inside S.head? p = true := by
  simp only [h.inside_iff, Guard.admits]
  cases c.parents with
  | none => simp
  | some ps => cases g.head? <;> simp

theorem Matches.placeFault_iff (h : Matches S g) (name : String) (c : Construct) :
    g.placeFault? name c = none ↔
      (∀ ps, c.parents = some ps → ∃ p ∈ ps, inside S.head? p = true) ∧
        ¬(c = .table ∧ inside S.head? .table = true) := by
  rw [← h.admits_iff, h.inside_iff]
  unfold Guard.placeFault?
  split
  · rename_i ha
    simp [ha]
  · rename_i ha
    simp [ha]

theorem Matches.mixFault_iff (h : Matches S g) (e : Event) :
    g.mixFault? e = none ↔ ¬(e.isAttributedPart = true ∧ S.head? = some (.figure none)) := by
  rw [← h.legacy_iff]
  unfold Guard.mixFault?
  split <;> simp_all

/-- A guard refuses a start for its place just if it does not fit there. -/
theorem Matches.start_iff (h : Matches S g) {e : Event} {c : OpenConstruct} (he : Opens e c) :
    g.placeFault? e.name c.construct = none ∧ g.mixFault? e = none ↔
      fits S.head? e = true := by
  rw [h.placeFault_iff, h.mixFault_iff]
  cases e with
  | elementStart x m => cases he; cases x <;> simp [Construct.parents, fits, Event.isAttributedPart]
  | figureCaption m => cases he; cases m <;> simp [Construct.parents, fits, Event.isAttributedPart]
  | tableCaption m => cases he; simp [Construct.parents, fits, Event.isAttributedPart]
  | _ => cases he <;> simp [Construct.parents, fits, Event.isAttributedPart]

theorem Matches.leaf_iff (h : Matches S g) {e : Event} (he : Leaf e) :
    g.mixFault? e = none ↔ fits S.head? e = true := by
  rw [h.mixFault_iff]
  cases he with
  | figureGraphics source m => cases m <;> simp [fits, Event.isAttributedPart]
  | _ => simp [fits, Event.isAttributedPart]

end

/-! ## Steps of a guard -/

theorem Leaf.nesting {e : Event} (h : Leaf e) : e.nesting = .leaf := by
  cases h <;> rfl

theorem Pair.opens {s e : Event} (h : Pair s e) : ∃ c, Opens s c := by
  cases h <;> exact ⟨_, rfl⟩

theorem Event.leaf_of_nesting {e : Event} (h : e.nesting = .leaf) : Leaf e := by
  cases e <;> cases h <;> constructor

theorem Opens.pair {s : Event} {c : OpenConstruct} (h : Opens s c) : ∃ e, Pair s e := by
  cases s <;> cases h <;> exact ⟨_, by constructor⟩

theorem Pair.closing {s e : Event} {c : OpenConstruct} (h : Pair s e) (hs : Opens s c) (g : Guard) :
    ∃ k l, e.nesting = .closes k l ∧ Guard.closing (c :: g) e.name k l = .ok g := by
  cases h <;> cases hs <;> exact ⟨_, _, rfl, by simp [Guard.closing]⟩

theorem Guard.closing_ok {c : OpenConstruct} {g g' : Guard} {name : String} {k : Construct}
    {l : Option Int} (h : Guard.closing (c :: g) name k l = .ok g') :
    c.construct = k ∧ g' = g ∧ ∀ n m, l = some n → c.level = some m → n = m := by
  simp only [Guard.closing] at h
  split at h
  · rename_i hk
    split at h
    · split at h
      · cases h; simp_all
      · cases h
    · cases h; simp_all
  · cases h

/-- The end that a guard lets pass is the end of the construct opened last. -/
theorem Opens.pair_of_closing {s e : Event} {c : OpenConstruct} {k : Construct} {l : Option Int}
    {g g' : Guard} (hs : Opens s c) (he : e.nesting = .closes k l)
    (h : Guard.closing (c :: g) e.name k l = .ok g') : Pair s e ∧ g' = g := by
  obtain ⟨hk, hg, hl⟩ := Guard.closing_ok h
  refine ⟨?_, hg⟩
  cases s <;> cases hs <;> cases e <;> cases he <;> cases hk
  case sectionStart | titleStart => obtain rfl := hl _ _ rfl rfl; constructor
  all_goals constructor

/-- Every event that a guard lets pass moves the enclosure, and the guard along with it. -/
theorem accept_moves {S : List Event} {g g' : Guard} {e : Event} (h : Matches S g)
    (ha : g.accept e = .ok g') : ∃ S', Moves S e S' ∧ Matches S' g' := by
  unfold Guard.accept at ha
  split at ha
  · rename_i he
    split at ha
    · cases ha
    · rename_i hm
      cases ha
      have hl := Event.leaf_of_nesting he
      exact ⟨S, .leaf hl ((h.leaf_iff hl).mp hm), h⟩
  · rename_i c he
    split at ha
    · cases ha
    · cases ha
    · rename_i hp hm
      cases ha
      obtain ⟨f, hf⟩ := Opens.pair he
      exact ⟨e :: S, .start hf ((h.start_iff he).mp ⟨hp, hm⟩), .cons he h⟩
  · rename_i k l he
    cases h with
    | nil => cases ha
    | cons hs hS =>
      obtain ⟨hp, rfl⟩ := hs.pair_of_closing he ha
      exact ⟨_, .finish hp, hS⟩

/-- A guard lets every event pass that moves the enclosure. -/
theorem Moves.accept {S S' : List Event} {g : Guard} {e : Event} (hm : Moves S e S')
    (h : Matches S g) : ∃ g', g.accept e = .ok g' ∧ Matches S' g' := by
  cases hm with
  | leaf hl hf =>
    refine ⟨g, ?_, h⟩
    simp only [Guard.accept, hl.nesting, (h.leaf_iff hl).mpr hf]
  | start hp hf =>
    obtain ⟨c, hc⟩ := hp.opens
    obtain ⟨hpl, hmx⟩ := (h.start_iff hc).mpr hf
    have hn : e.nesting = .opens c := hc
    refine ⟨c :: g, ?_, .cons hc h⟩
    simp only [Guard.accept, hn, hpl, hmx]
  | finish hp =>
    cases h with
    | cons hs hS =>
      rename_i g₀
      obtain ⟨k, l, hn, hc⟩ := hp.closing hs g₀
      refine ⟨g₀, ?_, hS⟩
      simp only [Guard.accept, hn, hc]

theorem Moves.enclose {S S' : List Event} {e : Event} (h : Moves S e S') : enclose S e = S' := by
  cases h with
  | leaf hl _ => simp only [EventMarkup.enclose, hl.nesting]
  | start hp _ => cases hp <;> rfl
  | finish hp => cases hp <;> rfl

/-! ## Runs -/

/-- What events in order do, one after the other, to the enclosure of a place. -/
inductive Path : List Event → List Event → List Event → Prop
  | nil {S : List Event} : Path S [] S
  | cons {S S' T : List Event} {e : Event} {es : List Event} :
    Moves S e S' → Path S' es T → Path S (e :: es) T

theorem Path.append {S T U : List Event} {xs ys : List Event} (h : Path S xs T)
    (h' : Path T ys U) : Path S (xs ++ ys) U := by
  induction h with
  | nil => exact h'
  | cons hm _ ih => exact .cons hm (ih h')

theorem path_of_run {S : List Event} {g : Guard} {k : Sink} {es : List Event} (h : Matches S g)
    (hk : ∀ e ∈ es, k.vocabulary.knows e = true)
    (hr : ∀ x ∈ steps Session.event ⟨[g], k⟩ es, x.refused = false) :
    ∃ T g', Path S es T ∧ Matches T g' ∧ (final Session.event ⟨[g], k⟩ es).guards = [g'] := by
  induction es generalizing S g k with
  | nil => exact ⟨S, g, .nil, h, rfl⟩
  | cons e es ih =>
    rw [List.forall_mem_cons] at hk
    rw [steps_cons, List.forall_mem_cons] at hr
    cases ha : g.accept e with
    | error f =>
      rw [Session.event_refused hk.1 ha] at hr
      cases hr.1
    | ok g₁ =>
      obtain ⟨S₁, hm, h₁⟩ := accept_moves h ha
      rw [Session.event_accepted hk.1 ha] at hr
      have hv := Sink.event_vocabulary k e
      obtain ⟨T, g', hp, hT, hg⟩ := ih h₁ (by rw [hv]; exact hk.2) hr.2
      refine ⟨T, g', .cons hm hp, hT, ?_⟩
      rw [final_cons, Session.event_accepted hk.1 ha]
      exact hg

theorem Path.run {S T : List Event} {g : Guard} {k : Sink} {es : List Event} (hp : Path S es T)
    (h : Matches S g) (hk : ∀ e ∈ es, k.vocabulary.knows e = true) :
    (∀ x ∈ steps Session.event ⟨[g], k⟩ es, x.refused = false) ∧
      ∃ g', Matches T g' ∧ (final Session.event ⟨[g], k⟩ es).guards = [g'] := by
  induction hp generalizing g k with
  | nil => exact ⟨fun _ hx => (List.not_mem_nil hx).elim, g, h, rfl⟩
  | @cons S S' T e es hm _ ih =>
    rw [List.forall_mem_cons] at hk
    obtain ⟨g₁, ha, h₁⟩ := hm.accept h
    have hv := Sink.event_vocabulary k e
    obtain ⟨hr, g', hT, hg⟩ := ih (k := (k.event e).after) h₁ (by rw [hv]; exact hk.2)
    rw [steps_cons, final_cons, Session.event_accepted hk.1 ha, List.forall_mem_cons]
    exact ⟨⟨Step.refused_within _ k e _, hr⟩, g', hT, hg⟩

end EventMarkup
