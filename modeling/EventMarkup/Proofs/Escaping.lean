import EventMarkup.Proofs.Entities
import Mathlib.Data.List.Basic

/-!
# Escaping one character at a time

Text is escaped character by character. The same comes of replacing the five characters one after
the other in the whole text, the ampersand first: no entity holds one of the other four, so nothing
that is written is replaced again.

* `entity_eq_replaceInTurn`, `escapeChars_eq_replaceInTurn`: both ways agree.
* `ampersand_begins_entity`: what an ampersand is there for.
* `escapeChars_eq_self_iff`: which texts stay as they are.
* `escape_reversible`: escaping is exact and can be undone.
-/
namespace EventMarkup.Text

/-! ## Replacement in turn -/

def replaceChar (cs : List Char) (e : Char × List Char) : List Char :=
  cs.flatMap fun c => if c = e.1 then e.2 else [c]

/-- The characters with replacements made in turn, each in all that the ones before it left. -/
def replaceInTurn (es : List (Char × List Char)) (cs : List Char) : List Char :=
  es.foldl replaceChar cs

theorem replaceInTurn_append (es : List (Char × List Char)) (cs ds : List Char) :
    replaceInTurn es (cs ++ ds) = replaceInTurn es cs ++ replaceInTurn es ds := by
  induction es generalizing cs ds with
  | nil => rfl
  | cons e es ih =>
    have hfirst : replaceChar (cs ++ ds) e = replaceChar cs e ++ replaceChar ds e :=
      List.flatMap_append
    show replaceInTurn es (replaceChar (cs ++ ds) e) = _
    rw [hfirst, ih]
    rfl

theorem replaceInTurn_of_not_mem {es : List (Char × List Char)} {c : Char}
    (h : c ∉ es.map Prod.fst) : replaceInTurn es [c] = [c] := by
  induction es with
  | nil => rfl
  | cons e es ih =>
    rw [List.map_cons, List.mem_cons, not_or] at h
    have hfirst : replaceChar [c] e = [c] := by simp [replaceChar, h.1]
    show replaceInTurn es (replaceChar [c] e) = [c]
    rw [hfirst, ih h.2]

/-! ## The five entities -/

/-- The five characters in the order of their replacement, and what is written for them. -/
def entities : List (Char × List Char) :=
  [('&', "&amp;".toList), ('<', "&lt;".toList), ('>', "&gt;".toList), ('\x22', "&quot;".toList),
    ('\x27', "&#x27;".toList)]

def specials : List Char := entities.map Prod.fst

theorem entity_of_not_mem {c : Char} (h : c ∉ specials) : entity c = [c] := by
  simp only [specials, entities, List.map_cons, List.map_nil, List.mem_cons, List.not_mem_nil,
    or_false, not_or] at h
  simp [entity, h]

theorem entity_mem {c : Char} (h : c ∈ specials) : (c, entity c) ∈ entities := by
  simp only [specials, entities, List.map_cons, List.map_nil, List.mem_cons, List.not_mem_nil,
    or_false] at h
  rcases h with rfl | rfl | rfl | rfl | rfl <;> decide

theorem entity_eq_replaceInTurn (c : Char) : entity c = replaceInTurn entities [c] := by
  by_cases h : c ∈ specials
  · simp only [specials, entities, List.map_cons, List.map_nil, List.mem_cons, List.not_mem_nil,
      or_false] at h
    rcases h with rfl | rfl | rfl | rfl | rfl <;> decide
  · rw [entity_of_not_mem h, replaceInTurn_of_not_mem h]

/-- An entity is an ampersand and more, with no special character in the rest. -/
theorem entity_shape {c : Char} (h : c ∈ specials) :
    ∃ rest, entity c = '&' :: rest ∧ rest ≠ [] ∧ ∀ x ∈ rest, x ∉ specials := by
  have hall : entities.all (fun e => e.2.head? = some '&' && e.2.tail ≠ [] &&
      e.2.tail.all fun x => x ∉ specials) = true := by decide
  have hshape := List.all_eq_true.mp hall _ (entity_mem h)
  simp only [Bool.and_eq_true, decide_eq_true_eq, List.all_eq_true] at hshape
  obtain ⟨⟨hhead, htail⟩, hrest⟩ := hshape
  obtain ⟨rest, hcons⟩ := List.head?_eq_some_iff.mp hhead
  rw [hcons] at htail hrest
  exact ⟨rest, hcons, htail, hrest⟩

theorem entity_ne_nil (c : Char) : entity c ≠ [] := by
  by_cases h : c ∈ specials
  · obtain ⟨rest, hshape, -, -⟩ := entity_shape h
    simp [hshape]
  · simp [entity_of_not_mem h]

/-! ## Whole texts -/

theorem escapeChars_append (cs ds : List Char) :
    escapeChars (cs ++ ds) = escapeChars cs ++ escapeChars ds := List.flatMap_append

theorem toList_escape (s : String) : (escape s).toList = escapeChars s.toList :=
  String.toList_ofList

theorem escape_append (s t : String) : escape (s ++ t) = escape s ++ escape t := by
  rw [escape, String.toList_append, escapeChars_append, String.ofList_append, escape, escape]

theorem escapeChars_eq_replaceInTurn (cs : List Char) :
    escapeChars cs = replaceInTurn entities cs := by
  induction cs with
  | nil => rfl
  | cons c cs ih =>
    rw [escapeChars_cons, ih, entity_eq_replaceInTurn, ← replaceInTurn_append]
    rfl

theorem mem_escapeChars {c : Char} {cs : List Char} (h : c ∈ escapeChars cs) :
    c = '&' ∨ c ∉ specials := by
  obtain ⟨x, -, hc⟩ := List.mem_flatMap.mp h
  by_cases hx : x ∈ specials
  · obtain ⟨rest, hentity, -, hrest⟩ := entity_shape hx
    rw [hentity, List.mem_cons] at hc
    exact hc.imp_right (hrest c)
  · rw [entity_of_not_mem hx, List.mem_singleton] at hc
    exact .inr (hc ▸ hx)

theorem ampersand_begins_entity {cs before after : List Char}
    (h : escapeChars cs = before ++ '&' :: after) :
    ∃ e ∈ entities, e.2 <+: '&' :: after := by
  induction cs generalizing before with
  | nil => simp [escapeChars] at h
  | cons c cs ih =>
    rw [escapeChars_cons, List.append_eq_append_iff] at h
    -- the ampersand is written for a later character, or for this one
    rcases h with ⟨front, -, hlater⟩ | ⟨here, hentity, hrest⟩
    · exact ih hlater
    · cases here with
      | nil => exact @ih [] hrest.symm
      | cons a here =>
        obtain ⟨rfl, hafter⟩ := List.cons.inj hrest
        by_cases hc : c ∈ specials
        · obtain ⟨rest, hshape, -, hplain⟩ := entity_shape hc
          refine ⟨_, entity_mem hc, ?_⟩
          cases before with
          | nil => exact ⟨escapeChars cs, by rw [hentity, hrest]; rfl⟩
          | cons b before =>
            rw [hshape] at hentity
            obtain ⟨-, hwithin⟩ := List.cons.inj hentity
            exact absurd (by decide) (hplain '&' (by simp [hwithin]))
        · rw [entity_of_not_mem hc] at hentity
          have hmem : '&' ∈ [c] := by simp [hentity]
          obtain rfl := List.mem_singleton.mp hmem
          exact absurd (by decide) hc

theorem length_le_escapeChars (cs : List Char) : cs.length ≤ (escapeChars cs).length := by
  induction cs with
  | nil => exact Nat.le_refl _
  | cons c cs ih =>
    have hpositive := List.length_pos_iff.mpr (entity_ne_nil c)
    rw [escapeChars_cons, List.length_append, List.length_cons]
    omega

theorem escapeChars_eq_self_iff (cs : List Char) :
    escapeChars cs = cs ↔ ∀ c ∈ cs, c ∉ specials := by
  refine ⟨fun h => ?_, fun h => ?_⟩
  · induction cs with
    | nil => simp
    | cons c cs ih =>
      rw [escapeChars_cons] at h
      by_cases hc : c ∈ specials
      · -- an entity is longer than what it stands for, and nothing gets shorter
        obtain ⟨rest, hshape, hrest, -⟩ := entity_shape hc
        have hlength := congrArg List.length h
        have hle := length_le_escapeChars cs
        have hpositive := List.length_pos_iff.mpr hrest
        rw [hshape, List.length_append, List.length_cons, List.length_cons] at hlength
        omega
      · rw [entity_of_not_mem hc] at h
        exact List.forall_mem_cons.mpr ⟨hc, ih (List.cons.inj h).2⟩
  · rw [escapeChars, List.flatMap_congr fun c hc => entity_of_not_mem (h c hc)]
    exact List.flatMap_singleton' cs

theorem escape_eq_self_iff (s : String) : escape s = s ↔ ∀ c ∈ s.toList, c ∉ specials := by
  rw [← escapeChars_eq_self_iff, ← String.toList_inj, toList_escape]

theorem escape_inj {s t : String} : escape s = escape t ↔ s = t := by
  refine ⟨fun h => ?_, fun h => h ▸ rfl⟩
  rw [← decode_escape s, h, decode_escape]

/-- **Escaping is exact and can be undone.** What is written for a text is what comes of replacing
the five characters in turn. Of these only ampersands are in it, and each of them begins an entity.
Decoded from left to right it is the text again, so no other text is written alike. Texts are
escaped piece by piece, and a text stays as it is just if it holds none of the five. -/
theorem escape_reversible (s : String) :
    (escape s).toList = replaceInTurn entities s.toList ∧
      (∀ c ∈ (escape s).toList, c ∈ specials → c = '&') ∧
      (∀ before after, (escape s).toList = before ++ '&' :: after →
        ∃ e ∈ entities, e.2 <+: '&' :: after) ∧
      decode (escape s) = s ∧ (∀ t, escape s = escape t ↔ s = t) ∧
      (∀ t, escape (s ++ t) = escape s ++ escape t) ∧
      (escape s = s ↔ ∀ c ∈ s.toList, c ∉ specials) := by
  refine ⟨?_, fun c hc hspecial => ?_, fun before after h => ?_, decode_escape s,
    fun t => escape_inj, escape_append s, escape_eq_self_iff s⟩
  · rw [toList_escape, escapeChars_eq_replaceInTurn]
  · rw [toList_escape] at hc
    exact (mem_escapeChars hc).resolve_right (not_not_intro hspecial)
  · rw [toList_escape] at h
    exact ampersand_begins_entity h

/-- A text that looks escaped is escaped once more, and decoded once it looks escaped again. -/
theorem entityLike_reversible :
    let s := "&lt;\x27"
    escape s = "&amp;lt;&#x27;" ∧
      (escape s).toList = "&amp;lt;".toList ++ '&' :: "#x27;".toList ∧
      (∃ e ∈ entities, e.2 <+: "&#x27;".toList) ∧ decode (escape s) = s ∧ decode s = "<\x27" := by
  intro s
  have hsplit : (escape s).toList = "&amp;lt;".toList ++ '&' :: "#x27;".toList := by decide
  obtain ⟨-, -, hbegins, hback, -⟩ := escape_reversible s
  exact ⟨by decide, hsplit, hbegins _ _ hsplit, hback, by decide⟩

end EventMarkup.Text
