import EventMarkup.Proofs.Grammar
import EventMarkup.Proofs.Shape

/-!
# Matching starts and ends

The starts and ends of one kind of construct may match whatever else there is between them
(`Bracketed`), as they do in every document. Of a kind of construct a state keeps one field, not one
for each construct that is open, and the end of any of them clears it.

* `Spans.field_eq`: after events the field is cleared if such a construct started among them, else
  unchanged, as long as nothing outside of these constructs sets it.
* `Document.field_eq`: the same after a document, where only the events that fit a place outside of
  these constructs must not set it.
-/
namespace EventMarkup

/-- Events in which the starts and ends of one kind of construct match. -/
inductive Bracketed (c : Construct) : List Event → Prop
  | nil : Bracketed c []
  | other {e : Event} {rest : List Event} :
    e.starts? ≠ some c → e.ends? ≠ some c → Bracketed c rest → Bracketed c (e :: rest)
  | pair {s f : Event} {inner rest : List Event} :
    s.starts? = some c → f.ends? = some c → Bracketed c inner → Bracketed c rest →
      Bracketed c (s :: inner ++ f :: rest)

/-- Events with constructs of one kind among them, which may hold anything. The others pass a test.
-/
inductive Spans (c : Construct) (p : Event → Prop) : List Event → Prop
  | nil : Spans c p []
  | other {e : Event} {rest : List Event} : p e → Spans c p rest → Spans c p (e :: rest)
  | span {s f : Event} {inner rest : List Event} :
    s.starts? = some c → f.ends? = some c → Spans c p rest → Spans c p (s :: inner ++ f :: rest)

/-- Among events an end closes what a start, after others, has opened: in between the starts and
ends of their kind match. -/
def Closes (es pre : List Event) (s : Event) (inner : List Event) (f : Event) : Prop :=
  (∃ post, es = pre ++ s :: inner ++ f :: post) ∧
    ∃ c, s.starts? = some c ∧ f.ends? = some c ∧ Bracketed c inner

theorem Leaf.bounds {e : Event} (h : Leaf e) : e.starts? = none ∧ e.ends? = none := by
  cases h <;> exact ⟨rfl, rfl⟩

theorem Pair.bounds {s f : Event} (h : Pair s f) :
    s.ends? = none ∧ f.starts? = none ∧ f.ends? = s.starts? := by
  cases h <;> exact ⟨rfl, rfl, rfl⟩

variable {c : Construct} {p : Event → Prop} {o : Option Event} {es fs : List Event}

theorem Bracketed.append (h : Bracketed c es) (hf : Bracketed c fs) : Bracketed c (es ++ fs) := by
  induction h with
  | nil => exact hf
  | other hs he _ ih => exact .other hs he ih
  | @pair s f inner rest hs he hi _ _ ih =>
    rw [List.append_assoc, List.cons_append]
    exact .pair hs he hi ih

theorem Spans.append (h : Spans c p es) (hf : Spans c p fs) : Spans c p (es ++ fs) := by
  induction h with
  | nil => exact hf
  | other he _ ih => exact .other he ih
  | @span s f inner rest hs he _ ih =>
    rw [List.append_assoc, List.cons_append]
    exact .span hs he ih

theorem Bracketed.spans (h : Bracketed c es) :
    Spans c (fun e => e.starts? ≠ some c ∧ e.ends? ≠ some c) es := by
  induction h with
  | nil => exact .nil
  | other hs he _ ih => exact .other ⟨hs, he⟩ ih
  | pair hs he _ _ _ ih => exact .span hs he ih

theorem Document.bracketed (hd : Document o es) : Bracketed c es := by
  induction hd with
  | nil => exact .nil
  | leaf hl _ _ ih => exact .other (by simp [hl.bounds]) (by simp [hl.bounds]) ih
  | @construct o s f inner rest hp _ _ _ ihi ihr =>
    obtain ⟨hs, hf, hsame⟩ := hp.bounds
    by_cases hc : s.starts? = some c
    · exact .pair hc (hsame.trans hc) ihi ihr
    · exact .other hc (by simp [hs]) (ihi.append (.other (by simp [hf]) (hsame ▸ hc) ihr))

theorem Document.closes {pre inner post : List Event} {s f : Event} (hp : Pair s f)
    (hd : Document (some s) inner) : Closes (pre ++ s :: inner ++ f :: post) pre s inner f := by
  obtain ⟨c, hs⟩ := hp.opens
  have hc := hs.starts
  exact ⟨⟨post, rfl⟩, c.construct, hc, hp.bounds.2.2.trans hc, hd.bracketed⟩

/-- Outside of the constructs of a kind, the events of a document pass a test if leaves do and the
starts and ends of other constructs in such places. -/
theorem Document.spans (hleaf : ∀ e, Leaf e → p e)
    (hpair : ∀ o s f, Pair s f → s.starts? ≠ some c → inside o c = false → fits o s = true →
      p s ∧ p f)
    (hd : Document o es) (ho : inside o c = false) : Spans c p es := by
  induction hd with
  | nil => exact .nil
  | leaf hl _ _ ih => exact .other (hleaf _ hl) (ih ho)
  | @construct o s f inner rest hp hfit _ _ ihi ihr =>
    by_cases hc : s.starts? = some c
    · exact .span hc (hp.bounds.2.2.trans hc) (ihr ho)
    · obtain ⟨hs, hf⟩ := hpair o s f hp hc ho hfit
      have hin : inside (some s) c = false := decide_eq_false hc
      exact .other hs ((ihi hin).append (.other hf (ihr ho)))

/-- A field that the ends of a kind of construct clear and that nothing outside of these constructs
sets: it is cleared if such a construct starts among the events, else unchanged. -/
theorem Spans.field_eq {σ α : Type} {step : σ → Event → σ} {field : σ → α} {rest : α}
    (h : Spans c p es) (hstart : ∀ e, p e → e.starts? ≠ some c)
    (hkeep : ∀ s e, p e → field (step s e) = field s)
    (hend : ∀ s e, e.ends? = some c → field (step s e) = rest) (s : σ) :
    field (es.foldl step s) = if opened es c then rest else field s := by
  induction h generalizing s with
  | nil => rfl
  | other he _ ih =>
    rw [List.foldl_cons, ih, hkeep _ _ he, opened_cons, decide_eq_false (hstart _ he),
      Bool.false_or]
  | span hs hf _ ih =>
    rw [List.cons_append, opened_cons, decide_eq_true hs, Bool.true_or, if_pos rfl,
      List.foldl_cons, List.foldl_append, List.foldl_cons, ih, hend _ _ hf, ite_self]

/-- In a document, a field that the ends of a kind of construct clear: it is cleared if such a
construct starts there, else unchanged, in a place outside of these constructs if no leaf sets it
and no other start or end in such places does. -/
theorem Document.field_eq {σ α : Type} {step : σ → Event → σ} {field : σ → α} {rest : α}
    (hd : Document o es) (ho : inside o c = false)
    (hleaf : ∀ e, Leaf e → ∀ s, field (step s e) = field s)
    (hpair : ∀ o s f, Pair s f → s.starts? ≠ some c → inside o c = false → fits o s = true →
      (∀ t, field (step t s) = field t) ∧ ∀ t, field (step t f) = field t)
    (hend : ∀ s e, e.ends? = some c → field (step s e) = rest) (s : σ) :
    field (es.foldl step s) = if opened es c then rest else field s := by
  have hspans : Spans c (fun e => e.starts? ≠ some c ∧ ∀ t, field (step t e) = field t) es := by
    refine hd.spans (fun e hl => ⟨by simp [hl.bounds], hleaf e hl⟩)
      (fun q s f hp hs hq hfit => ?_) ho
    obtain ⟨hstart, hfinish⟩ := hpair q s f hp hs hq hfit
    exact ⟨⟨hs, hstart⟩, by simp [hp.bounds], hfinish⟩
  exact hspans.field_eq (fun e h => h.1) (fun t e h => h.2 t) hend s

end EventMarkup
