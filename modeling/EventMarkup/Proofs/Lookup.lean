import EventMarkup.Style

/-!
# Looking up attributes

What a name gives in a map after an insertion, a merge, a selection or a change of all values. So
what the attributes of a caller come to in a scope can be said without the map: a name gives the
text of its value if the style lets it through, and nothing otherwise (`Style.get?_admitted`).
-/
namespace EventMarkup

namespace OrderedMap

variable {α β : Type}

@[simp] theorem get?_empty (n : String) : (∅ : OrderedMap α).get? n = none := rfl

theorem lookup_cons (e : String × α) (l : List (String × α)) (n : String) :
    (e :: l).lookup n = if n = e.1 then some e.2 else l.lookup n := by
  rw [List.lookup_cons]
  by_cases h : n = e.1
  · rw [if_pos h, h, beq_self_eq_true]
  · rw [if_neg h, beq_false_of_ne h]

theorem lookup_put (k : String) (v : α) (l : List (String × α)) (n : String) :
    (put k v l).lookup n = if n = k then some v else l.lookup n := by
  induction l with
  | nil => exact lookup_cons (k, v) [] n
  | cons e l ih =>
    obtain ⟨k', v'⟩ := e
    by_cases hk : k' = k
    · subst hk
      rw [put, if_pos rfl, lookup_cons, lookup_cons]
      by_cases h : n = k' <;> simp [h]
    · rw [put, if_neg hk, lookup_cons, lookup_cons, ih]
      by_cases h : n = k'
      · subst h
        simp [hk]
      · simp [h]

theorem get?_insert (m : OrderedMap α) (k : String) (v : α) (n : String) :
    (m.insert k v).get? n = if n = k then some v else m.get? n :=
  lookup_put k v m.entries n

theorem lookup_eq_none {l : List (String × α)} {n : String} (h : n ∉ l.map Prod.fst) :
    l.lookup n = none := by
  induction l with
  | nil => rfl
  | cons e l ih =>
    rw [List.map_cons, List.mem_cons, not_or] at h
    rw [lookup_cons, if_neg h.1, ih h.2]

theorem lookup_eq_some_iff {l : List (String × α)} (hd : (l.map Prod.fst).Nodup) {n : String}
    {v : α} : l.lookup n = some v ↔ (n, v) ∈ l := by
  induction l with
  | nil => simp
  | cons e l ih =>
    rw [List.map_cons, List.nodup_cons] at hd
    rw [lookup_cons, List.mem_cons]
    by_cases hn : n = e.1
    · subst hn
      have hrest : (e.1, v) ∉ l := fun h => hd.1 (List.mem_map.mpr ⟨_, h, rfl⟩)
      simp [hrest, Prod.ext_iff, eq_comm]
    · have hfirst : (n, v) ≠ e := fun h => hn (congrArg Prod.fst h)
      simp [hn, hfirst, ih hd.2]

theorem get?_eq_some_iff {m : OrderedMap α} {n : String} {v : α} :
    m.get? n = some v ↔ (n, v) ∈ m.entries :=
  lookup_eq_some_iff m.nodup

theorem get?_eq_none_iff {m : OrderedMap α} {n : String} : m.get? n = none ↔ n ∉ m.keys := by
  constructor
  · intro h hn
    obtain ⟨e, he, rfl⟩ := List.mem_map.mp hn
    rw [get?_eq_some_iff.mpr he] at h
    cases h
  · exact lookup_eq_none

/-- A name gives what the second map has for it, else what the first has. -/
theorem get?_merge (m other : OrderedMap α) (n : String) :
    (m.merge other).get? n = (other.get? n).or (m.get? n) := by
  obtain ⟨entries, hd⟩ := other
  show (entries.foldl (fun m e => m.insert e.1 e.2) m).get? n = (entries.lookup n).or (m.get? n)
  induction entries generalizing m with
  | nil => rfl
  | cons e entries ih =>
    rw [List.map_cons, List.nodup_cons] at hd
    rw [List.foldl_cons, ih (m.insert e.1 e.2) hd.2, get?_insert, lookup_cons]
    by_cases hn : n = e.1
    · subst hn
      simp [lookup_eq_none hd.1]
    · simp [hn]

theorem get?_filter (p : String → Bool) (m : OrderedMap α) (n : String) :
    (m.filter p).get? n = if p n then m.get? n else none := by
  show (m.entries.filter fun e => p e.1).lookup n = if p n then m.entries.lookup n else none
  induction m.entries with
  | nil => simp
  | cons e entries ih =>
    rw [List.filter_cons, lookup_cons]
    by_cases hn : n = e.1
    · subst hn
      cases hp : p e.1 with
      | true => simp [lookup_cons]
      | false => simpa [hp] using ih
    · cases hp : p e.1 with
      | true => simp [lookup_cons, hn, ih]
      | false => simp [hn, ih]

theorem get?_eraseAll (m : OrderedMap α) (ks : List String) (n : String) :
    (m.eraseAll ks).get? n = if n ∈ ks then none else m.get? n := by
  rw [eraseAll, get?_filter]
  by_cases h : n ∈ ks <;> simp [h]

theorem get?_map (f : α → β) (m : OrderedMap α) (n : String) :
    (m.map f).get? n = (m.get? n).map f := by
  show (m.entries.map fun e => (e.1, f e.2)).lookup n = (m.entries.lookup n).map f
  induction m.entries with
  | nil => rfl
  | cons e entries ih =>
    rw [List.map_cons, lookup_cons, lookup_cons, ih]
    split <;> rfl

end OrderedMap

namespace Style

theorem admitted_empty (st : Style) (s : Scope) : st.admitted s ∅ = ∅ := by
  unfold admitted
  cases st.allowed s <;> rfl

/-- Whether a style lets an attribute through in a scope. -/
def lets (st : Style) (s : Scope) (name : String) : Bool :=
  match st.allowed s with
  | none => true
  | some names => names.contains name

/-- The text that a caller gives an attribute in a scope, if the style lets it through. -/
def given (st : Style) (s : Scope) (m : Mapping) (name : String) : Option String :=
  if st.lets s name then (m.get? name).map Value.toText else none

theorem get?_admitted (st : Style) (s : Scope) (m : Mapping) (name : String) :
    (st.admitted s m).get? name = st.given s m name := by
  have htext : (Attributes.ofMapping m).get? name = (m.get? name).map Value.toText :=
    OrderedMap.get?_map Value.toText m name
  unfold admitted given lets
  cases st.allowed s with
  | none => exact htext
  | some names =>
    rw [← htext]
    exact OrderedMap.get?_filter names.contains (Attributes.ofMapping m) name

end Style

end EventMarkup
