import EventMarkup.Proofs.InsertionOrder
import Mathlib.Data.List.Induction

/-!
# Merging and selecting attributes

Merging and selecting are operations on the names in their order and on what each name gives, and
the two are told apart here: a merge has the names in the order in which they first occur
(`Attributes.keys_mergeAll`), and each name gives what the last set that has it gives
(`Attributes.get?_mergeAll`). So merging is associative, nothing to merge changes nothing, and a
selection may be made before a merge or after it (`merge_and_select`). All of this holds of the
ordered lists, not only of what is found in them.
-/
namespace EventMarkup

theorem eraseDups_of_nodup {l : List String} (h : l.Nodup) : l.eraseDups = l := by
  induction l with
  | nil => rfl
  | cons x l ih =>
    rw [List.nodup_cons] at h
    have hrest : l.filter (fun y => !y == x) = l := by
      rw [List.filter_eq_self]
      intro y hy
      have hne : y ≠ x := fun he => h.1 (he ▸ hy)
      simp [hne]
    rw [List.eraseDups_cons, hrest, ih h.2]

namespace OrderedMap

variable {α β : Type}

/-! ## Merges -/

@[simp] theorem merge_empty (m : OrderedMap α) : m.merge ∅ = m := rfl

@[simp] theorem empty_merge (m : OrderedMap α) : (∅ : OrderedMap α).merge m = m := by
  apply ext_get?
  · rw [keys_merge]
    exact List.filter_eq_self.mpr fun _ _ => decide_eq_true List.not_mem_nil
  · intro k
    rw [get?_merge, get?_empty, Option.or_none]

theorem merge_assoc (a b c : OrderedMap α) : (a.merge b).merge c = a.merge (b.merge c) := by
  apply ext_get?
  · simp only [keys_merge, List.filter_append, List.filter_filter, List.append_assoc]
    congr 2
    -- a name of the third map is new if it is new to the first and new to the second
    apply List.filter_congr
    intro k _
    by_cases ha : k ∈ a.keys <;> simp [ha]
  · intro k
    rw [get?_merge, get?_merge, get?_merge, get?_merge, Option.or_assoc]

theorem merge_self (m : OrderedMap α) : m.merge m = m := by
  apply ext_get?
  · have hnone : m.keys.filter (· ∉ m.keys) = [] := by
      rw [List.filter_eq_nil_iff]
      intro k hk
      simp [hk]
    rw [keys_merge, hnone, List.append_nil]
  · intro k
    rw [get?_merge, Option.or_self]

/-! ## Selections -/

/-- A selection from a merge is the merge of the selections. -/
theorem filter_merge (p : String → Bool) (a b : OrderedMap α) :
    (a.merge b).filter p = (a.filter p).merge (b.filter p) := by
  apply ext_get?
  · simp only [keys_filter, keys_merge, List.filter_append, List.filter_filter]
    congr 1
    -- only names that the selection keeps are asked whether they are new
    apply List.filter_congr
    intro k _
    cases hk : p k <;> simp [hk]
  · intro k
    rw [get?_filter, get?_merge, get?_merge, get?_filter, get?_filter]
    split <;> rfl

theorem filter_filter (p q : String → Bool) (m : OrderedMap α) :
    (m.filter p).filter q = m.filter fun k => p k && q k := by
  apply ext_get?
  · simp only [keys_filter, List.filter_filter, Bool.and_comm]
  · intro k
    rw [get?_filter, get?_filter, get?_filter]
    cases p k <;> cases q k <;> rfl

theorem filter_map (p : String → Bool) (f : α → β) (m : OrderedMap α) :
    (m.map f).filter p = (m.filter p).map f := by
  apply ext_get?
  · rw [keys_filter, keys_map, keys_map, keys_filter]
  · intro k
    rw [get?_filter, get?_map, get?_map, get?_filter]
    split <;> rfl

end OrderedMap

namespace Attributes

open OrderedMap

/-! ## What is given for attributes -/

/-- What is given for attributes: a mapping or nothing, which is the lack of attributes. -/
def given (m : Option Mapping) : Mapping := m.getD ∅

/-- A set of attributes where a mapping may be given. -/
def asMapping (a : Attributes) : Mapping := a.map .text

/-- The attributes of what is given, merged from left to right; later values win. -/
def mergeGiven (ms : List (Option Mapping)) : Attributes := mergeAll (ms.map given)

/-- A set that is given as a mapping is taken as it is. -/
theorem ofMapping_asMapping (a : Attributes) : ofMapping a.asMapping = a := by
  apply ext_get?
  · rw [ofMapping, asMapping, keys_map, keys_map]
  · intro k
    rw [ofMapping, asMapping, get?_map, get?_map, Option.map_map]
    exact Option.map_id_apply

theorem keepOnly_keepOnly (a : Attributes) (allowed others : List String) :
    (a.keepOnly allowed).keepOnly others = a.keepOnly (allowed.filter others.contains) := by
  unfold keepOnly
  rw [filter_filter]
  congr 1
  funext k
  rw [Bool.eq_iff_iff]
  simp

/-! ## Merging -/

theorem mergeAll_concat (ms : List Mapping) (m : Mapping) :
    mergeAll (ms ++ [m]) = (mergeAll ms).merge (ofMapping m) := List.foldl_append

theorem mergeAll_singleton (m : Mapping) : mergeAll [m] = ofMapping m := empty_merge _

theorem mergeAll_append (ms ns : List Mapping) :
    mergeAll (ms ++ ns) = (mergeAll ms).merge (mergeAll ns) := by
  induction ns using List.reverseRecOn with
  | nil => rw [List.append_nil]; rfl
  | append_singleton ns n ih =>
    rw [← List.append_assoc, mergeAll_concat, mergeAll_concat, ih, merge_assoc]

theorem mergeAll_skip (ms ns : List Mapping) : mergeAll (ms ++ ∅ :: ns) = mergeAll (ms ++ ns) := by
  rw [mergeAll_append, mergeAll_append]
  rfl

/-- The names of a merge, in the order in which they first occur. -/
theorem keys_mergeAll (ms : List Mapping) :
    (mergeAll ms).keys = (ms.flatMap OrderedMap.keys).eraseDups := by
  induction ms using List.reverseRecOn with
  | nil => rfl
  | append_singleton ms m ih =>
    have hkeys : (ofMapping m).keys = m.keys := keys_map Value.toText m
    have hd : m.keys.Nodup := m.nodup
    -- the names that the last mapping adds are those that do not occur before
    have hnew : (m.keys.removeAll (ms.flatMap OrderedMap.keys)).eraseDups =
        m.keys.filter (· ∉ (mergeAll ms).keys) := by
      rw [List.removeAll, eraseDups_of_nodup (hd.filter _)]
      apply List.filter_congr
      intro k _
      simp only [ih, List.mem_eraseDups, List.elem_eq_mem, decide_not]
    rw [mergeAll_concat, keys_merge, hkeys, List.flatMap_append, List.flatMap_singleton,
      List.eraseDups_append, hnew, ih]

/-- What a name of a merge gives: the text of its value in the last mapping that has it. -/
theorem get?_mergeAll (ms : List Mapping) (k : String) :
    (mergeAll ms).get? k = (ms.reverse.findSome? fun m => m.get? k).map Value.toText := by
  induction ms using List.reverseRecOn with
  | nil => rfl
  | append_singleton ms m ih =>
    have hvalue : (ofMapping m).get? k = (m.get? k).map Value.toText := get?_map ..
    rw [mergeAll_concat, get?_merge, hvalue, ih, List.reverse_append, List.reverse_singleton,
      List.singleton_append, List.findSome?_cons]
    cases m.get? k <;> rfl

theorem keepOnly_mergeAll (ms : List Mapping) (allowed : List String) :
    (mergeAll ms).keepOnly allowed =
      mergeAll (ms.map fun m => (select m allowed).asMapping) := by
  induction ms using List.reverseRecOn with
  | nil => rfl
  | append_singleton ms m ih =>
    rw [List.map_append, List.map_singleton, mergeAll_concat, mergeAll_concat,
      ofMapping_asMapping, ← ih]
    exact filter_merge ..

/-- Merged attributes in the place of those that were merged. -/
theorem mergeGiven_splice (ms ns ps : List (Option Mapping)) :
    mergeGiven (ms ++ some (mergeGiven ns).asMapping :: ps) = mergeGiven (ms ++ ns ++ ps) := by
  have hset := ofMapping_asMapping (mergeGiven ns)
  unfold mergeGiven at hset ⊢
  rw [List.append_cons, List.map_append, List.map_append, List.map_append, List.map_append,
    mergeAll_append, mergeAll_append, mergeAll_append, mergeAll_append, List.map_singleton,
    mergeAll_singleton]
  exact congrArg (fun a => ((mergeAll (ms.map given)).merge a).merge _) hset

end Attributes

open Attributes OrderedMap in
/-- **Merging and selecting.** Mappings, sets and nothing at all can be merged and selected from;
what comes of it is told as an ordered list.

* A merge has each name once, in the order of first occurrence, with the text of its last value.
* It does not matter how merges are nested. Nothing and the set without names can be left out, and
  what is merged alone or with itself stays as it is.
* The selection from a merge is the merge of the selections. Two selections in turn are one, of the
  names that are in both.
* A selection from what is given is made alike from the set of it, before or after values become
  texts. -/
theorem merge_and_select (ms ns ps : List (Option Mapping)) (l m r : Option Mapping)
    (allowed others : List String) :
    (mergeGiven ms).keys = (ms.flatMap fun m => (given m).keys).eraseDups ∧
    (∀ name, (mergeGiven ms).get? name =
      (ms.reverse.findSome? fun m => (given m).get? name).map Value.toText) ∧
    mergeGiven (ms ++ some (mergeGiven ns).asMapping :: ps) = mergeGiven (ms ++ ns ++ ps) ∧
    mergeGiven [some (mergeGiven [l, m]).asMapping, r] =
      mergeGiven [l, some (mergeGiven [m, r]).asMapping] ∧
    mergeGiven (ms ++ none :: ps) = mergeGiven (ms ++ ps) ∧
    mergeGiven (ms ++ some ∅ :: ps) = mergeGiven (ms ++ ps) ∧
    mergeGiven [m] = ofMapping (given m) ∧
    mergeGiven [m, m] = ofMapping (given m) ∧
    select (mergeGiven ms).asMapping allowed =
      mergeGiven (ms.map fun m => some (select (given m) allowed).asMapping) ∧
    select (select (given m) allowed).asMapping others =
      select (given m) (allowed.filter others.contains) ∧
    select (given m) allowed = (ofMapping (given m)).keepOnly allowed ∧
    select (given m) allowed = ofMapping ((given m).filter allowed.contains) ∧
    ∀ a : Attributes, select a.asMapping allowed = a.keepOnly allowed := by
  have hset : ∀ a : Attributes, select a.asMapping allowed = a.keepOnly allowed := by
    intro a
    rw [select, ofMapping_asMapping]
  have hnested : mergeGiven [some (mergeGiven [l, m]).asMapping, r] = mergeGiven [l, m, r] :=
    mergeGiven_splice [] [l, m] [r]
  have hskip : ∀ x, given x = ∅ → mergeGiven (ms ++ x :: ps) = mergeGiven (ms ++ ps) := by
    intro x hx
    rw [mergeGiven, List.map_append, List.map_cons, hx, mergeAll_skip, ← List.map_append]
    rfl
  refine ⟨?_, ?_, mergeGiven_splice ms ns ps, ?_, hskip none rfl, hskip (some ∅) rfl,
    mergeAll_singleton _, ?_, ?_, ?_, rfl, filter_map .., hset⟩
  · rw [mergeGiven, keys_mergeAll, List.flatMap_map]
  · intro name
    rw [mergeGiven, get?_mergeAll, ← List.map_reverse, List.findSome?_map]
    rfl
  · rw [hnested]
    exact (mergeGiven_splice [l] [m, r] []).symm
  · have htwice : mergeAll [given m, given m] = (mergeAll [given m]).merge (mergeAll [given m]) :=
      mergeAll_append [given m] [given m]
    rw [mergeAll_singleton, merge_self] at htwice
    exact htwice
  · rw [hset, mergeGiven, keepOnly_mergeAll, mergeGiven, List.map_map, List.map_map]
    rfl
  · rw [select, ofMapping_asMapping]
    exact keepOnly_keepOnly ..

open Attributes in
example : (mergeGiven [some (.ofList [("class", .text "a"), ("id", .text "x")]), none,
    some (.ofList [("id", .integer 2), ("class", .truth true)])]).entries =
      [("class", "True"), ("id", "2")] := by decide

end EventMarkup
