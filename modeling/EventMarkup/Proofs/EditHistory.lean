import EventMarkup.Attributes.Edit
import EventMarkup.Proofs.InsertionOrder
import Mathlib.Data.List.Perm.Subperm

/-!
# The history of a set of attributes

Whatever is asked of a set of attributes comes down to touches: a value is put under a name, or a
name is dropped. The touches that there were settle the set: the names that are present are those
whose last touch put a value, each gives the text of that value, and they stand in the order in
which they came in while they were absent (`History.keys_replay`, `History.get?_replay`). One edit
adds its touches to the history (`after_edit`), and so does a run of edits (`editAll_eq_replay`).
-/
namespace EventMarkup

namespace OrderedMap

variable {α : Type}

theorem get?_erase (m : OrderedMap α) (k n : String) :
    (m.erase k).get? n = if n = k then none else m.get? n := by
  rw [erase, get?_filter]
  by_cases h : n = k <;> simp [h]

theorem erase_of_not_mem {m : OrderedMap α} {k : String} (h : k ∉ m.keys) : m.erase k = m := by
  apply OrderedMap.ext
  show m.entries.filter (fun e => e.1 != k) = m.entries
  rw [List.filter_eq_self]
  intro e he
  have hne : e.1 ≠ k := fun hek => h (hek ▸ List.mem_map_of_mem he)
  simp [hne]

theorem mem_keys_iff {m : OrderedMap α} {k : String} : k ∈ m.keys ↔ (m.get? k).isSome := by
  rw [← Decidable.not_iff_not, ← get?_eq_none_iff, Option.not_isSome_iff_eq_none]

theorem contains_iff {m : OrderedMap α} {k : String} : m.contains k = true ↔ k ∈ m.keys := by
  unfold contains
  rw [List.contains_iff_mem]

theorem nodup_entries (m : OrderedMap α) : m.entries.Nodup :=
  List.Pairwise.of_map Prod.fst (fun _ _ h he => h (congrArg Prod.fst he)) m.nodup

theorem eraseAll_nil (m : OrderedMap α) : m.eraseAll [] = m :=
  OrderedMap.ext (List.filter_eq_self.mpr fun _ _ => rfl)

theorem eraseAll_cons (m : OrderedMap α) (k : String) (ks : List String) :
    m.eraseAll (k :: ks) = (m.erase k).eraseAll ks := by
  apply OrderedMap.ext
  rw [entries_eraseAll, entries_eraseAll]
  show _ = (m.entries.filter fun e => e.1 != k).filter fun e => e.1 ∉ ks
  rw [List.filter_filter]
  apply List.filter_congr
  intro e _
  by_cases he : e.1 = k <;> simp [he]

end OrderedMap

/-- What can happen to a name of a set. -/
inductive Touch where
  | put (name : String) (v : Value)
  | drop (name : String)

/-- What happened to the names of a set, the latest touch first. -/
abbrev History := List Touch

namespace History

open OrderedMap

/-- The value that a name was last put with, unless it was dropped since. -/
def value? : History → String → Option Value
  | [], _ => none
  | .put n v :: h, k => if k = n then some v else value? h k
  | .drop n :: h, k => if k = n then none else value? h k

/-- When a name last came in while it was absent: how many touches there were before. -/
def since : History → String → Nat
  | [], _ => 0
  | .put n _ :: h, k => if k = n ∧ value? h n = none then h.length else since h k
  | .drop _ :: h, k => since h k

/-- The set that the touches make of an empty one. -/
def replay : History → Attributes
  | [] => ∅
  | .put n v :: h => (replay h).assign n v
  | .drop n :: h => (replay h).erase n

theorem get?_replay (h : History) (k : String) :
    (replay h).get? k = (value? h k).map Value.toText := by
  induction h with
  | nil => rfl
  | cons t h ih =>
    cases t with
    | put n v =>
      rw [replay, Attributes.assign, get?_insert, value?, ih]
      split <;> rfl
    | drop n =>
      rw [replay, get?_erase, value?, ih]
      split <;> rfl

theorem mem_keys_replay {h : History} {k : String} :
    k ∈ (replay h).keys ↔ (value? h k).isSome := by
  rw [mem_keys_iff, get?_replay, Option.isSome_map]

theorem since_lt_length {h : History} {k : String} (hk : (value? h k).isSome) :
    since h k < h.length := by
  induction h with
  | nil => cases hk
  | cons t h ih =>
    cases t with
    | put n v =>
      rw [since, List.length_cons]
      by_cases hn : k = n ∧ value? h n = none
      · rw [if_pos hn]
        omega
      · have hold : (value? h k).isSome := by
          by_cases hkn : k = n
          · subst hkn
            exact Option.isSome_iff_ne_none.mpr fun hnone => hn ⟨rfl, hnone⟩
          · rwa [value?, if_neg hkn] at hk
        have := ih hold
        rw [if_neg hn]
        omega
    | drop n =>
      have hold : (value? h k).isSome := by
        by_cases hkn : k = n
        · rw [value?, if_pos hkn] at hk
          cases hk
        · rwa [value?, if_neg hkn] at hk
      have := ih hold
      rw [since, List.length_cons]
      omega

/-- The names stand in the order in which they last came in while they were absent. -/
theorem keys_replay (h : History) :
    (replay h).keys.Pairwise fun k k' => since h k < since h k' := by
  induction h with
  | nil => exact List.Pairwise.nil
  | cons t h ih =>
    cases t with
    | put n v =>
      rw [replay, Attributes.assign, keys_insert]
      by_cases hn : n ∈ (replay h).keys
      · -- an overwritten name keeps its place, and no name comes in
        have hsome : value? h n ≠ none := Option.isSome_iff_ne_none.mp (mem_keys_replay.mp hn)
        rw [if_pos hn]
        refine ih.imp fun hlt => ?_
        rw [since, since, if_neg fun hk => hsome hk.2, if_neg fun hk => hsome hk.2]
        exact hlt
      · have hnone : value? h n = none := by
          rw [mem_keys_replay, Option.not_isSome_iff_eq_none] at hn
          exact hn
        have hold : ∀ k ∈ (replay h).keys, since (.put n v :: h) k = since h k := by
          intro k hk
          rw [since, if_neg fun hkn : k = n ∧ value? h n = none => hn (hkn.1 ▸ hk)]
        have hnew : since (.put n v :: h) n = h.length := by
          rw [since, if_pos ⟨rfl, hnone⟩]
        rw [if_neg hn, List.pairwise_append]
        refine ⟨ih.imp_of_mem ?_, List.pairwise_singleton _ _, ?_⟩
        · intro k k' hk hk' hlt
          rw [hold k hk, hold k' hk']
          exact hlt
        · intro k hk k' hk'
          rw [List.mem_singleton.mp hk', hold k hk, hnew]
          exact since_lt_length (mem_keys_replay.mp hk)
    | drop n =>
      rw [replay, keys_erase]
      exact ih.sublist List.filter_sublist

/-! ## Several touches -/

theorem replay_puts (h : History) (l : List (String × Value)) :
    replay ((l.map fun e => .put e.1 e.2).reverse ++ h) =
      l.foldl (fun a e => a.assign e.1 e.2) (replay h) := by
  induction l generalizing h with
  | nil => rfl
  | cons e l ih =>
    rw [List.map_cons, List.reverse_cons, List.append_assoc, List.foldl_cons]
    exact ih (.put e.1 e.2 :: h)

theorem replay_drops (h : History) (names : List String) :
    replay ((names.map .drop).reverse ++ h) = (replay h).eraseAll names := by
  induction names generalizing h with
  | nil => exact (eraseAll_nil _).symm
  | cons n names ih =>
    rw [List.map_cons, List.reverse_cons, List.append_assoc, eraseAll_cons]
    exact ih (.drop n :: h)

end History

namespace Attributes

open OrderedMap History

theorem addAll_eq_foldl (a : Attributes) (m : Mapping) :
    a.addAll m = m.entries.foldl (fun a e => a.assign e.1 e.2) a := by
  show (m.entries.map fun e => (e.1, e.2.toText)).foldl (fun a e => a.insert e.1 e.2) a = _
  rw [List.foldl_map]
  rfl

theorem ofMapping_eq_addAll (m : Mapping) : ofMapping m = (∅ : Attributes).addAll m := by
  apply ext_get?
  · rw [addAll, keys_merge]
    exact (List.filter_eq_self.mpr fun _ _ => decide_eq_true List.not_mem_nil).symm
  · intro k
    rw [addAll, get?_merge, get?_empty, Option.or_none]

/-- The touches that a mapping of entries comes to, in its order. -/
def puts (m : Mapping) : List Touch := m.entries.map fun e => .put e.1 e.2

/-- The touches that an edit comes to, in their order. -/
def touches (a : Attributes) : Edit → List Touch
  | .look _ | .lookOr _ _ => []
  | .lookOrAssign name v => if name ∈ a.keys then [] else [.put name v]
  | .assign name v => [.put name v]
  | .delete name | .take name _ => [.drop name]
  | .takeFirst => (a.keys.take 1).map .drop
  | .addAll m => puts m
  | .remove names => names.map .drop
  | .clear => a.keys.map .drop

/-- The history after the edits of a set, on top of the one before. -/
def record (a : Attributes) (h : History) : List Edit → History
  | [] => h
  | e :: es => record (a.edit e).after ((a.touches e).reverse ++ h) es

theorem edit_take (a : Attributes) (name : String) (fallback : Option Value) :
    a.edit (.take name fallback) =
      match a.get? name, fallback with
      | some t, _ => .done (a.erase name) (.value (.text t))
      | none, some v => .done a (.value v)
      | none, none => .fail a (.missingName name) := by
  simp only [edit, take?]
  cases a.get? name <;> cases fallback <;> rfl

/-- To take an entry away is to take away the first one. -/
theorem edit_takeFirst (a : Attributes) :
    a.edit .takeFirst =
      match a.entries with
      | [] => .fail a .emptySet
      | e :: _ => .done (a.erase e.1) (.entry e.1 e.2) := by
  simp only [edit, popFirst?]
  cases a.entries <;> rfl

theorem edit_failed {a b : Attributes} {e : Edit} {f : Fault} {ns : List Notice}
    (h : a.edit e = ⟨b, ns, .error f⟩) : b = a ∧ f.report.kind = .key := by
  cases e with
  | look name =>
    rw [edit] at h
    split at h
    · cases h
    · cases h
      exact ⟨rfl, rfl⟩
  | lookOr name fallback =>
    rw [edit] at h
    split at h <;> cases h
  | lookOrAssign name v => cases h
  | assign name v => cases h
  | delete name =>
    rw [edit] at h
    split at h
    · cases h
    · cases h
      exact ⟨rfl, rfl⟩
  | take name fallback =>
    rw [edit_take] at h
    split at h
    · cases h
    · cases h
    · cases h
      exact ⟨rfl, rfl⟩
  | takeFirst =>
    rw [edit_takeFirst] at h
    split at h
    · cases h
      exact ⟨rfl, rfl⟩
    · cases h
  | addAll m => cases h
  | remove names => cases h
  | clear => cases h

theorem after_take (a : Attributes) (name : String) (fallback : Option Value) :
    (a.edit (.take name fallback)).after = a.erase name := by
  rw [edit_take]
  cases hg : a.get? name with
  | some t => rfl
  | none =>
    rw [erase_of_not_mem (get?_eq_none_iff.mp hg)]
    cases fallback <;> rfl

theorem after_delete (a : Attributes) (name : String) :
    (a.edit (.delete name)).after = a.erase name := by
  rw [edit]
  by_cases hk : name ∈ a.keys
  · rw [if_pos (contains_iff.mpr hk)]
    rfl
  · rw [if_neg fun h => hk (contains_iff.mp h), erase_of_not_mem hk]
    rfl

/-- One edit adds its touches to the history. -/
theorem after_edit (h : History) (e : Edit) :
    ((replay h).edit e).after = replay (((replay h).touches e).reverse ++ h) := by
  generalize ha : replay h = a
  cases e with
  | look name =>
    rw [edit]
    split <;> exact ha.symm
  | lookOr name fallback =>
    rw [edit]
    split <;> exact ha.symm
  | lookOrAssign name v =>
    rw [edit, touches, getOrAssign]
    cases hg : a.get? name with
    | some t =>
      rw [if_pos (mem_keys_iff.mpr (Option.isSome_of_eq_some hg))]
      exact ha.symm
    | none =>
      rw [if_neg (get?_eq_none_iff.mp hg), ← ha]
      rfl
  | assign name v =>
    rw [← ha]
    rfl
  | delete name =>
    rw [after_delete, ← ha]
    rfl
  | take name fallback =>
    rw [after_take, ← ha]
    rfl
  | takeFirst =>
    rw [edit_takeFirst, touches, keys, replay_drops, ha]
    cases a.entries with
    | nil => exact (eraseAll_nil a).symm
    | cons e l =>
      show _ = a.eraseAll [e.1]
      rw [eraseAll_cons, eraseAll_nil]
      rfl
  | addAll m =>
    rw [touches, puts, replay_puts, ha, ← addAll_eq_foldl]
    rfl
  | remove names =>
    rw [touches, replay_drops, ha]
    rfl
  | clear =>
    rw [touches, replay_drops, ha]
    apply OrderedMap.ext
    rw [entries_eraseAll]
    exact (List.filter_eq_nil_iff.mpr fun e he => by simp [keys, List.mem_map_of_mem he]).symm

theorem editAll_eq_replay (h : History) (es : List Edit) :
    editAll (replay h) es = replay (record (replay h) h es) := by
  induction es generalizing h with
  | nil => rfl
  | cons e es ih =>
    rw [editAll, record, after_edit]
    exact ih _

theorem replay_first (m : Mapping) : replay (puts m).reverse = ofMapping m := by
  rw [ofMapping_eq_addAll, addAll_eq_foldl, ← List.append_nil (puts m).reverse]
  exact replay_puts [] m.entries

/-- Two sets compare equal if they have the same entries in whatever order. -/
theorem same_iff_perm (a b : Attributes) : a.same b = true ↔ a.entries.Perm b.entries := by
  have hagree : a.same b = true ↔
      a.entries.length = b.entries.length ∧ ∀ e ∈ a.entries, e ∈ b.entries := by
    unfold same agrees size
    rw [Bool.and_eq_true, decide_eq_true_iff, List.all_eq_true]
    refine and_congr_right fun _ => forall₂_congr fun e _ => ?_
    rw [← get?_eq_some_iff (n := e.1) (m := b)]
    cases b.get? e.1 with
    | none => simp
    | some t => simp [eq_comm]
  rw [hagree]
  constructor
  · rintro ⟨hlen, hmem⟩
    exact (a.nodup_entries.subperm hmem).perm_of_length_le (Nat.le_of_eq hlen.symm)
  · exact fun hp => ⟨hp.length_eq, fun e he => hp.mem_iff.mp he⟩

theorem takeFirst_cases (a : Attributes) :
    match a.entries with
    | [] => a.edit .takeFirst = .fail a .emptySet
    | e :: rest => ∃ b, a.edit .takeFirst = .done b (.entry e.1 e.2) ∧ b.entries = rest := by
  rw [edit_takeFirst]
  split
  · rfl
  · rename_i e rest hl
    have hd := a.nodup
    rw [hl, List.map_cons, List.nodup_cons] at hd
    refine ⟨_, rfl, ?_⟩
    show a.entries.filter (fun x => x.1 != e.1) = rest
    rw [hl, List.filter_cons_of_neg (by simp), List.filter_eq_self]
    intro x hx
    have hne : x.1 ≠ e.1 := fun h => hd.1 (h ▸ List.mem_map_of_mem hx)
    simp [hne]

end Attributes

open Attributes History in
/-- **The history of a set.** Whatever is asked of a set, failures included, after the mapping that
it was made of:

* Its names are unique, and they stand in the order in which they last came in while they were
  absent. Each gives the text of the value that it was last put with.
* Overwriting keeps the place of a name, and a name that is deleted and assigned goes to the end.
* The first entry is the one that is taken when none is named.
* What fails for a missing name changes nothing.
* A set compares equal to those with the same entries in whatever order. -/
theorem edits_recorded (m : Mapping) (es : List Edit) :
    let a := editAll (ofMapping m) es
    let h := record (ofMapping m) (puts m).reverse es
    a.keys.Nodup ∧
    a.keys.Pairwise (fun k k' => since h k < since h k') ∧
    (∀ k, a.get? k = (value? h k).map Value.toText) ∧
    (∀ k v, (a.edit (.assign k v)).after.keys = if k ∈ a.keys then a.keys else a.keys ++ [k]) ∧
    (∀ k v, ((a.edit (.delete k)).after.edit (.assign k v)).after.keys =
      a.keys.filter (· ≠ k) ++ [k]) ∧
    (match a.entries with
      | [] => a.edit .takeFirst = .fail a .emptySet
      | e :: rest => ∃ b, a.edit .takeFirst = .done b (.entry e.1 e.2) ∧ b.entries = rest) ∧
    (∀ e b ns f, a.edit e = ⟨b, ns, .error f⟩ → b = a ∧ f.report.kind = .key) ∧
    ∀ b : Attributes, a.same b = true ↔ a.entries.Perm b.entries := by
  have hreplay : editAll (ofMapping m) es =
      replay (record (ofMapping m) (puts m).reverse es) := by
    have h := editAll_eq_replay (puts m).reverse es
    rwa [replay_first] at h
  intro a h
  have ha : a = replay h := hreplay
  refine ⟨a.nodup, ?_, ?_, fun k v => OrderedMap.keys_insert a k v.toText, ?_, takeFirst_cases a,
    fun _ _ _ _ => edit_failed, same_iff_perm a⟩
  · rw [ha]
    exact keys_replay h
  · rw [ha]
    exact get?_replay h
  · intro k v
    have hgone : k ∉ a.keys.filter (· ≠ k) := by simp
    rw [after_delete]
    show ((a.erase k).insert k v.toText).keys = _
    rw [OrderedMap.keys_insert, OrderedMap.keys_erase, if_neg hgone]

end EventMarkup
