import EventMarkup.Proofs.Enclosure

/-!
# The shape of an enclosure

A run may be asked to have one construct of some kinds open at a time (`neverReopens`). The
enclosures of such a run are `Nested`: a start event fits its place, and of these kinds no other is
open outside it. Then the parts of a table or a figure are alone too, since they stand directly in
it.
-/
namespace EventMarkup

/-- Whether all events of a run pass a test, given the enclosures of their places. -/
def throughout (p : List Event → Event → Bool) (S : List Event) : List Event → Bool
  | [] => true
  | e :: es => p S e && throughout p (enclose S e) es

/-- Whether an event opens a second construct of one of some kinds. -/
def reopens (ks : List Construct) (S : List Event) (e : Event) : Bool :=
  ks.any fun k => decide (e.starts? = some k) && opened S k

/-- Whether no event of a run opens a second construct of one of some kinds. -/
def neverReopens (ks : List Construct) : List Event → List Event → Bool :=
  throughout fun S e => !reopens ks S e

/-- Enclosures in which each start event fits its place and reopens nothing of some kinds. -/
inductive Nested (ks : List Construct) : List Event → Prop
  | nil : Nested ks []
  | cons {e : Event} {S : List Event} :
    fits S.head? e = true → reopens ks S e = false → Nested ks S → Nested ks (e :: S)

variable {ks : List Construct}

theorem neverReopens_cons {S : List Event} {e : Event} {es : List Event} :
    neverReopens ks S (e :: es) = true ↔
      reopens ks S e = false ∧ neverReopens ks (enclose S e) es = true := by
  rw [neverReopens, throughout, Bool.and_eq_true, Bool.not_eq_true']

theorem Nested.tail {e : Event} {S : List Event} (hn : Nested ks (e :: S)) : Nested ks S := by
  cases hn; assumption

theorem Nested.fits_head {e : Event} {S : List Event} (hn : Nested ks (e :: S)) :
    fits S.head? e = true := by
  cases hn; assumption

theorem opened_of_inside {S : List Event} {k : Construct} (h : inside S.head? k = true) :
    opened S k = true := by
  cases S with
  | nil => cases h
  | cons f S =>
    rw [opened_cons, Bool.or_eq_true]
    exact Or.inl h

theorem Moves.nested {S S' : List Event} {e : Event} (hm : Moves S e S')
    (hr : reopens ks S e = false) (hn : Nested ks S) : Nested ks S' := by
  cases hm with
  | leaf => exact hn
  | start _ hf => exact .cons hf hr hn
  | finish => exact hn.tail

/-- Of a single construct no other is open outside it. -/
theorem Nested.alone {e : Event} {S : List Event} {k : Construct} (hn : Nested ks (e :: S))
    (hk : k ∈ ks) (he : e.starts? = some k) : opened S k = false := by
  cases hn with
  | cons _ hr _ =>
    simp only [reopens, List.any_eq_false] at hr
    simpa [he] using hr k hk

/-- The construct that an event ends. -/
def Event.ends? (e : Event) : Option Construct :=
  match e.nesting with
  | .closes k _ => some k
  | _ => none

/-- Whether a construct is open after an event, if there is one of its kind open at a time. -/
theorem Moves.opened_eq {S S' : List Event} {e : Event} {k : Construct} (hm : Moves S e S')
    (halone : ∀ f T, S = f :: T → f.starts? = some k → opened T k = false) :
    opened S' k = if e.starts? = some k then true else if e.ends? = some k then false
      else opened S k := by
  cases hm with
  | leaf hl => cases hl <;> rfl
  | start hp =>
    have he : e.ends? = none := by cases hp <;> rfl
    by_cases hs : e.starts? = some k <;> simp [hs, he]
  | finish hp =>
    rename_i b
    have he : e.starts? = none ∧ e.ends? = b.starts? := by cases hp <;> exact ⟨rfl, rfl⟩
    by_cases hs : b.starts? = some k
    · simp [he, hs, halone b S' rfl hs]
    · simp [he, hs]

section
variable {part whole : Construct}
  (hin : ∀ o e, e.starts? = some part → fits o e = true → inside o whole = true)
include hin

theorem Nested.opened_whole {S : List Event} (hn : Nested ks S) (h : opened S part = true) :
    opened S whole = true := by
  induction hn with
  | nil => cases h
  | @cons e S hf _ _ ih =>
    simp only [opened_cons, Bool.or_eq_true, decide_eq_true_eq] at h ⊢
    rcases h with he | h
    · exact Or.inr (opened_of_inside (hin _ _ he hf))
    · exact Or.inr (ih h)

theorem Nested.no_part {S : List Event} (hn : Nested ks S) (h : opened S whole = false) :
    opened S part = false := by
  by_contra hc
  rw [hn.opened_whole hin (by simpa using hc)] at h
  cases h

theorem Nested.alone_part (hne : part ≠ whole)
    (hw : ∀ {e S}, Nested ks (e :: S) → e.starts? = some whole → opened S whole = false)
    {e : Event} {S : List Event} (hn : Nested ks (e :: S)) (he : e.starts? = some part) :
    opened S part = false := by
  cases hn with
  | cons hf _ hS =>
    have hi := hin _ _ he hf
    cases S with
    | nil => rfl
    | cons f S =>
      have hfw : f.starts? = some whole := of_decide_eq_true hi
      have hnp : opened S part = false := hS.tail.no_part hin (hw hS hfw)
      simp [hfw, hnp, hne.symm]

end

theorem rows_in_table (o : Option Event) (e : Event) (he : e.starts? = some .tableRows)
    (hf : fits o e = true) : inside o .table = true := by
  cases e <;> simp_all [Event.starts?, fits]

theorem row_in_rows (o : Option Event) (e : Event) (he : e.starts? = some .tableRow)
    (hf : fits o e = true) : inside o .tableRows = true := by
  cases e <;> simp_all [Event.starts?, fits]

theorem caption_in_figure (o : Option Event) (e : Event) (he : e.starts? = some .figureCaption)
    (hf : fits o e = true) : inside o .figure = true := by
  cases e <;> simp_all [Event.starts?, fits]

section
variable {e : Event} {S : List Event} (hn : Nested ks (e :: S))
include hn

theorem Nested.alone_rows (hk : .table ∈ ks) (he : e.starts? = some .tableRows) :
    opened S .tableRows = false :=
  hn.alone_part rows_in_table (by decide) (fun h hf => h.alone hk hf) he

theorem Nested.alone_row (hk : .table ∈ ks) (he : e.starts? = some .tableRow) :
    opened S .tableRow = false :=
  hn.alone_part row_in_rows (by decide) (fun h hf => h.alone_rows hk hf) he

theorem Nested.alone_caption (hk : .figure ∈ ks) (he : e.starts? = some .figureCaption) :
    opened S .figureCaption = false :=
  hn.alone_part caption_in_figure (by decide) (fun h hf => h.alone hk hf) he

end

end EventMarkup
