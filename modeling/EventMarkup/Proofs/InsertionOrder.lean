import EventMarkup.Proofs.Lookup

/-!
# The order of entries

A name that is present keeps its place when a value is inserted for it, and a new name goes to the
end. So a merge leaves the names of the first map where they are, with the values of the second
where it has any, and the new names of the second follow in their order (`entries_merge`).
-/
namespace EventMarkup.OrderedMap

variable {α : Type}

theorem put_of_mem {k : String} {l : List (String × α)} (hd : (l.map Prod.fst).Nodup)
    (h : k ∈ l.map Prod.fst) (v : α) :
    put k v l = l.map fun e => if e.1 = k then (k, v) else e := by
  induction l with
  | nil => cases h
  | cons e l ih =>
    rw [List.map_cons, List.nodup_cons] at hd
    by_cases hk : e.1 = k
    · -- no other entry has the name
      have hrest : l.map (fun e => if e.1 = k then (k, v) else e) = l := by
        have hkeep : ∀ x ∈ l, (if x.1 = k then (k, v) else x) = x := by
          intro x hx
          refine if_neg fun hxk => hd.1 ?_
          rw [hk, ← hxk]
          exact List.mem_map_of_mem hx
        rw [List.map_congr_left hkeep, List.map_id']
      rw [put, if_pos hk, List.map_cons, if_pos hk, hrest]
    · have hmem : k ∈ l.map Prod.fst := by simpa [Ne.symm hk] using h
      rw [put, if_neg hk, List.map_cons, if_neg hk, ih hd.2 hmem]

theorem put_of_not_mem {k : String} {l : List (String × α)} (h : k ∉ l.map Prod.fst) (v : α) :
    put k v l = l ++ [(k, v)] := by
  induction l with
  | nil => rfl
  | cons e l ih =>
    rw [List.map_cons, List.mem_cons, not_or] at h
    rw [put, if_neg (Ne.symm h.1), ih h.2]
    rfl

/-- The entries of a map with a value set: overwritten in place or added at the end. -/
theorem entries_insert (m : OrderedMap α) (k : String) (v : α) :
    (m.insert k v).entries =
      if k ∈ m.keys then m.entries.map fun e => if e.1 = k then (k, v) else e
      else m.entries ++ [(k, v)] := by
  split
  · rename_i h
    exact put_of_mem m.nodup h v
  · rename_i h
    exact put_of_not_mem h v

theorem mem_keys_insert {m : OrderedMap α} {k n : String} {v : α} :
    n ∈ (m.insert k v).keys ↔ n = k ∨ n ∈ m.keys :=
  mem_keys_put

theorem entries_eraseAll (m : OrderedMap α) (ks : List String) :
    (m.eraseAll ks).entries = m.entries.filter fun e => e.1 ∉ ks :=
  List.filter_congr fun e _ => by simp

theorem mem_keys_eraseAll {m : OrderedMap α} {ks : List String} {n : String} :
    n ∈ (m.eraseAll ks).keys ↔ n ∈ m.keys ∧ n ∉ ks := by
  simp [keys, entries_eraseAll]

theorem put_filter {p : String → Bool} {k : String} (hk : p k = true) (v : α)
    (l : List (String × α)) :
    (put k v l).filter (fun e => p e.1) = put k v (l.filter fun e => p e.1) := by
  induction l with
  | nil => simp [put, hk]
  | cons e l ih =>
    by_cases h : e.1 = k
    · simp [put, h, hk]
    · cases hp : p e.1 with
      | true => simp [put, h, hp, ih]
      | false => simp [put, h, hp, ih]

/-- A name that a selection keeps can be set before it or after it. -/
theorem filter_insert {p : String → Bool} {k : String} (hk : p k = true) (m : OrderedMap α)
    (v : α) : (m.insert k v).filter p = (m.filter p).insert k v :=
  OrderedMap.ext (put_filter hk v m.entries)

/-- The entries of a merge: those of the first map in place, with the values of the second where it
has any, then those of the second whose names are new. -/
theorem entries_merge (m other : OrderedMap α) :
    (m.merge other).entries =
      m.entries.map (fun e => (e.1, (other.get? e.1).getD e.2)) ++
        other.entries.filter fun e => e.1 ∉ m.keys := by
  obtain ⟨entries, hd⟩ := other
  show (entries.foldl (fun m e => m.insert e.1 e.2) m).entries =
    m.entries.map (fun e => (e.1, (entries.lookup e.1).getD e.2)) ++
      entries.filter fun e => e.1 ∉ m.keys
  induction entries generalizing m with
  | nil => simp
  | cons e entries ih =>
    rw [List.map_cons, List.nodup_cons] at hd
    have hlast : entries.lookup e.1 = none := lookup_eq_none hd.1
    rw [List.foldl_cons, ih (m.insert e.1 e.2) hd.2, entries_insert, List.filter_cons]
    by_cases hk : e.1 ∈ m.keys
    · -- the value changes in place, and the names stay the same
      have hvalue : ∀ x ∈ m.entries,
          ((if x.1 = e.1 then (e.1, e.2) else x).1,
            (entries.lookup (if x.1 = e.1 then (e.1, e.2) else x).1).getD
              (if x.1 = e.1 then (e.1, e.2) else x).2) =
            (x.1, ((e :: entries).lookup x.1).getD x.2) := by
        intro x _
        by_cases hx : x.1 = e.1
        · simp [lookup_cons, hx, hlast]
        · simp [lookup_cons, hx]
      have hnames : ∀ x : String × α, (x.1 ∉ (m.insert e.1 e.2).keys) ↔ x.1 ∉ m.keys := by
        intro x
        rw [mem_keys_insert, not_or, and_iff_right_of_imp]
        exact fun hx hxe => hx (hxe ▸ hk)
      rw [if_pos hk, List.map_map, if_neg (by simpa using hk)]
      congr 1
      · exact List.map_congr_left hvalue
      · simp only [hnames]
    · have hvalue : ∀ x ∈ m.entries, (x.1, (entries.lookup x.1).getD x.2) =
          (x.1, ((e :: entries).lookup x.1).getD x.2) := by
        intro x hx
        have hne : x.1 ≠ e.1 := fun hxe => hk (hxe ▸ List.mem_map_of_mem hx)
        rw [lookup_cons, if_neg hne]
      have hnames : ∀ x ∈ entries, (x.1 ∉ (m.insert e.1 e.2).keys) ↔ x.1 ∉ m.keys := by
        intro x hx
        rw [mem_keys_insert, not_or, and_iff_right]
        exact fun hxe => hd.1 (hxe ▸ List.mem_map_of_mem hx)
      rw [if_neg hk, if_pos (by simpa using hk), List.map_append, List.map_singleton, hlast,
        List.map_congr_left hvalue, List.append_assoc]
      have hrest : entries.filter (fun x => x.1 ∉ (m.insert e.1 e.2).keys) =
          entries.filter (fun x => x.1 ∉ m.keys) :=
        List.filter_congr fun x hx => decide_eq_decide.mpr (hnames x hx)
      rw [hrest]
      rfl

/-! ## Names -/

theorem keys_insert (m : OrderedMap α) (k : String) (v : α) :
    (m.insert k v).keys = if k ∈ m.keys then m.keys else m.keys ++ [k] := by
  show (m.insert k v).entries.map Prod.fst = _
  rw [entries_insert]
  split
  · rw [List.map_map]
    apply List.map_congr_left
    intro e _
    by_cases he : e.1 = k <;> simp [he]
  · rw [List.map_append]
    rfl

theorem keys_filter (p : String → Bool) (m : OrderedMap α) :
    (m.filter p).keys = m.keys.filter p := by
  show (m.entries.filter fun e => p e.1).map Prod.fst = (m.entries.map Prod.fst).filter p
  rw [List.filter_map]
  rfl

theorem keys_erase (m : OrderedMap α) (k : String) :
    (m.erase k).keys = m.keys.filter (· ≠ k) := by
  rw [erase, keys_filter]
  apply List.filter_congr
  intro n _
  by_cases h : n = k <;> simp [h]

theorem keys_map {β : Type} (f : α → β) (m : OrderedMap α) : (m.map f).keys = m.keys := by
  show (m.entries.map fun e => (e.1, f e.2)).map Prod.fst = m.entries.map Prod.fst
  rw [List.map_map]
  rfl

theorem keys_merge (m other : OrderedMap α) :
    (m.merge other).keys = m.keys ++ other.keys.filter (· ∉ m.keys) := by
  unfold keys
  rw [entries_merge, List.map_append, List.map_map, List.filter_map]
  rfl

theorem eq_of_lookup {l l' : List (String × α)} (hd : (l.map Prod.fst).Nodup)
    (hkeys : l.map Prod.fst = l'.map Prod.fst) (hvalues : ∀ k, l.lookup k = l'.lookup k) :
    l = l' := by
  induction l generalizing l' with
  | nil => exact (List.map_eq_nil_iff.mp hkeys.symm).symm
  | cons e l ih =>
    cases l' with
    | nil => cases hkeys
    | cons e' l' =>
      obtain ⟨hname, hnames⟩ := List.cons.inj hkeys
      rw [List.map_cons, List.nodup_cons] at hd
      have hvalue := hvalues e.1
      rw [lookup_cons, lookup_cons, if_pos rfl, if_pos hname, Option.some.injEq] at hvalue
      have hrest : ∀ k, l.lookup k = l'.lookup k := by
        intro k
        by_cases hk : k = e.1
        · -- the first name occurs in neither rest
          subst hk
          rw [lookup_eq_none hd.1, lookup_eq_none (hnames ▸ hd.1)]
        · have hsame := hvalues k
          rwa [lookup_cons, lookup_cons, if_neg hk, if_neg (hname ▸ hk)] at hsame
      rw [Prod.ext hname hvalue, ih hd.2 hnames hrest]

/-- Maps with the same names in the same order that give the same are the same. -/
theorem ext_get? {a b : OrderedMap α} (hkeys : a.keys = b.keys)
    (hvalues : ∀ k, a.get? k = b.get? k) : a = b :=
  OrderedMap.ext (eq_of_lookup a.nodup hkeys hvalues)

/-! ## Maps of entries -/

/-- Entries without a name that occurs twice are those of the map that they make. -/
theorem entries_ofList {l : List (String × α)} (h : (l.map Prod.fst).Nodup) :
    (ofList l).entries = l := by
  have hmerge : ofList l = (∅ : OrderedMap α).merge ⟨l, h⟩ := rfl
  have hnew : l.filter (fun e => e.1 ∉ (∅ : OrderedMap α).keys) = l :=
    List.filter_eq_self.mpr fun _ _ => decide_eq_true List.not_mem_nil
  rw [hmerge, entries_merge, hnew]
  rfl

end EventMarkup.OrderedMap
