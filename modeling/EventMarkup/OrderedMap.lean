/-!
# Insertion-ordered maps

Names with values, each name once, in the order in which the names came in. Overwriting keeps a
name's place; a name that is erased and inserted again goes to the end.
-/
namespace EventMarkup

/-- A map from names to values that keeps the order of insertion. -/
structure OrderedMap (α : Type) where
  entries : List (String × α)
  nodup : (entries.map Prod.fst).Nodup

namespace OrderedMap

variable {α β : Type}

instance [DecidableEq α] : DecidableEq (OrderedMap α) := fun a b =>
  if h : a.entries = b.entries then .isTrue (by cases a; cases b; simp_all)
  else .isFalse fun e => h (by rw [e])

instance [Repr α] : Repr (OrderedMap α) := ⟨fun m n => reprPrec m.entries n⟩

@[ext]
theorem ext {a b : OrderedMap α} (h : a.entries = b.entries) : a = b := by
  cases a; cases b; simp_all

def empty : OrderedMap α := ⟨[], List.nodup_nil⟩

instance : EmptyCollection (OrderedMap α) := ⟨empty⟩

instance : Inhabited (OrderedMap α) := ⟨empty⟩

/-! ## Queries -/

def keys (m : OrderedMap α) : List String := m.entries.map Prod.fst

def values (m : OrderedMap α) : List α := m.entries.map Prod.snd

def size (m : OrderedMap α) : Nat := m.entries.length

def isEmpty (m : OrderedMap α) : Bool := m.entries.isEmpty

def get? (m : OrderedMap α) (k : String) : Option α := m.entries.lookup k

def contains (m : OrderedMap α) (k : String) : Bool := m.keys.contains k

/-! ## Insertion -/

/-- The entries with the value of a name replaced, or the name added at the end. -/
def put (k : String) (v : α) : List (String × α) → List (String × α)
  | [] => [(k, v)]
  | (k', v') :: rest => if k' = k then (k, v) :: rest else (k', v') :: put k v rest

theorem mem_keys_put {k : String} {v : α} {l : List (String × α)} {x : String} :
    x ∈ (put k v l).map Prod.fst ↔ x = k ∨ x ∈ l.map Prod.fst := by
  induction l with
  | nil => simp [put]
  | cons e l ih =>
    obtain ⟨k', v'⟩ := e
    by_cases h : k' = k
    · subst h; simp [put]
    · simp only [put, h, if_false, List.map_cons, List.mem_cons, ih]
      grind

theorem nodup_put {k : String} {v : α} {l : List (String × α)} (h : (l.map Prod.fst).Nodup) :
    ((put k v l).map Prod.fst).Nodup := by
  induction l with
  | nil => simp [put]
  | cons e l ih =>
    obtain ⟨k', v'⟩ := e
    simp only [List.map_cons, List.nodup_cons] at h
    by_cases hk : k' = k
    · subst hk; simpa [put] using h
    · simp only [put, hk, if_false, List.map_cons, List.nodup_cons, mem_keys_put]
      exact ⟨by grind, ih h.2⟩

/-- The map with a name set to a value. -/
def insert (m : OrderedMap α) (k : String) (v : α) : OrderedMap α :=
  ⟨put k v m.entries, nodup_put m.nodup⟩

/-- The map of a list of entries; a later entry overwrites an earlier one of the same name. -/
def ofList (l : List (String × α)) : OrderedMap α :=
  l.foldl (fun m e => m.insert e.1 e.2) ∅

/-- All entries of the second map inserted into the first. -/
def merge (m other : OrderedMap α) : OrderedMap α :=
  other.entries.foldl (fun m e => m.insert e.1 e.2) m

/-! ## Selection -/

theorem nodup_filter {l : List (String × α)} (p : String × α → Bool)
    (h : (l.map Prod.fst).Nodup) : ((l.filter p).map Prod.fst).Nodup :=
  h.sublist (List.filter_sublist.map _)

def filter (p : String → Bool) (m : OrderedMap α) : OrderedMap α :=
  ⟨m.entries.filter fun e => p e.1, nodup_filter _ m.nodup⟩

def erase (m : OrderedMap α) (k : String) : OrderedMap α := m.filter (· != k)

def eraseAll (m : OrderedMap α) (ks : List String) : OrderedMap α :=
  m.filter fun k => !ks.contains k

def popFirst? (m : OrderedMap α) : Option ((String × α) × OrderedMap α) :=
  match m.entries with
  | [] => none
  | e :: _ => some (e, m.erase e.1)

def map (f : α → β) (m : OrderedMap α) : OrderedMap β :=
  ⟨m.entries.map fun e => (e.1, f e.2), by
    have h : (m.entries.map fun e => (e.1, f e.2)).map Prod.fst = m.entries.map Prod.fst := by
      simp [Function.comp_def]
    rw [h]; exact m.nodup⟩

/-- Whether two maps have the same names with related values, whatever their order. -/
def agrees (r : α → β → Bool) (a : OrderedMap α) (b : OrderedMap β) : Bool :=
  a.size = b.size && a.entries.all fun e =>
    match b.get? e.1 with
    | some v => r e.2 v
    | none => false

end OrderedMap

end EventMarkup
