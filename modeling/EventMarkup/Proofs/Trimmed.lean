import EventMarkup.Text.Blank
import EventMarkup.Text.Lines
import EventMarkup.Wiki.Reader
import Mathlib.Data.List.DropRight

/-!
# Texts without blanks around them

Trimming leaves no blank at either end, and a line holds no terminator. A text is *neat* if it is
not empty, has no blank at either end and holds no terminator.

* `trim_eq_empty_iff`: blank texts are those of which trimming leaves nothing.
* `joinParts_neat`: neat parts with spaces between them are neat.
-/
namespace EventMarkup.Text

/-! ## Trimming -/

/-- Characters without a blank at either end. -/
structure Trimmed (cs : List Char) : Prop where
  first : ∀ c ∈ cs.head?, isBlank c = false
  last : ∀ c ∈ cs.getLast?, isBlank c = false

theorem trimChars_eq (cs : List Char) :
    trimChars cs = (cs.dropWhile isBlank).rdropWhile isBlank := rfl

theorem trimChars_trimmed (cs : List Char) : Trimmed (trimChars cs) where
  first := by
    intro c hc
    -- what is left at the front begins where the blanks before it stopped
    obtain ⟨tail, htail⟩ := List.rdropWhile_prefix isBlank (cs.dropWhile isBlank)
    rw [← trimChars_eq] at htail
    have hstop := List.head?_dropWhile_not isBlank cs
    rw [← htail, List.head?_append, hc] at hstop
    exact hstop
  last := by
    intro c hc
    have hne : trimChars cs ≠ [] := fun h => by simp [h] at hc
    have hlast := List.rdropWhile_last_not isBlank (cs.dropWhile isBlank) hne
    rw [Option.mem_def, List.getLast?_eq_some_getLast hne, Option.some.injEq] at hc
    rw [← hc]
    exact Bool.eq_false_iff.mpr hlast

theorem Trimmed.trimChars {cs : List Char} (h : Trimmed cs) : trimChars cs = cs := by
  have hfront : cs.dropWhile isBlank = cs := by
    refine List.dropWhile_eq_self_iff.mpr fun hl => ?_
    have hc := h.first cs[0] (by rw [List.head?_eq_getElem?, List.getElem?_eq_getElem hl]; rfl)
    simp [hc]
  rw [trimChars_eq, hfront]
  refine List.rdropWhile_eq_self_iff.mpr fun hl => ?_
  simp [h.last _ (List.getLast?_eq_some_getLast hl)]

theorem mem_of_mem_trimChars {cs : List Char} {c : Char} (h : c ∈ trimChars cs) : c ∈ cs := by
  have hfront := (List.rdropWhile_prefix isBlank (cs.dropWhile isBlank)).mem h
  exact (List.dropWhile_suffix isBlank).mem hfront

theorem trimChars_eq_nil_iff {cs : List Char} : trimChars cs = [] ↔ ∀ c ∈ cs, isBlank c = true := by
  constructor
  · intro h
    by_contra hc
    have hne : cs.dropWhile isBlank ≠ [] := by rwa [Ne, List.dropWhile_eq_nil_iff]
    have hstop := List.head?_dropWhile_not isBlank cs
    have hall := List.rdropWhile_eq_nil_iff.mp (trimChars_eq cs ▸ h)
    rw [List.head?_eq_some_head hne] at hstop
    simp [hall _ (List.head_mem hne)] at hstop
  · intro h
    rw [trimChars_eq, List.dropWhile_eq_nil_iff.mpr h]
    rfl

theorem trim_eq_empty_iff (s : String) : trim s = "" ↔ isBlankText s = true := by
  rw [isBlankText, List.all_eq_true, ← trimChars_eq_nil_iff, trim, String.ofList_eq_empty_iff]

/-! ## Lines -/

theorem joinLine_mem {c : Char} {ls : List (List Char)} {l : List Char} (h : l ∈ joinLine c ls) :
    l = [c] ∨ l ∈ ls ∨ ∃ l' ∈ ls, l = c :: l' := by
  cases ls with
  | nil => exact .inl (List.mem_singleton.mp h)
  | cons l' ls =>
    rcases List.mem_cons.mp h with rfl | h
    · exact .inr (.inr ⟨l', List.mem_cons_self, rfl⟩)
    · exact .inr (.inl (List.mem_cons_of_mem _ h))

theorem lineChars_bare (cs : List Char) :
    ∀ l ∈ lineChars cs, ∀ c ∈ l, isTerminator c = false := by
  induction cs with
  | nil => simp [lineChars]
  | cons c cs ih =>
    rw [lineChars]
    split
    · exact ih
    · split
      · intro l hl
        rcases List.mem_cons.mp hl with rfl | hl
        · simp
        · exact ih l hl
      · rename_i hc
        intro l hl x hx
        have hc : isTerminator c = false := by simpa using hc
        rcases joinLine_mem hl with rfl | hl | ⟨l', hl', rfl⟩
        · obtain rfl := List.mem_singleton.mp hx
          exact hc
        · exact ih l hl x hx
        · rcases List.mem_cons.mp hx with rfl | hx
          · exact hc
          · exact ih l' hl' x hx

theorem lines_bare {s line : String} (h : line ∈ lines s) :
    ∀ c ∈ line.toList, isTerminator c = false := by
  obtain ⟨l, hl, rfl⟩ := List.mem_map.mp h
  rw [String.toList_ofList]
  exact lineChars_bare _ l hl

/-! ## Neat texts -/

/-- Characters that are some, have no blank at either end and hold no terminator. -/
structure NeatChars (cs : List Char) : Prop where
  ne_nil : cs ≠ []
  trimmed : Trimmed cs
  oneLine : ∀ c ∈ cs, isTerminator c = false

/-- A text that is not empty, has no blank at either end and holds no terminator. -/
def Neat (s : String) : Prop := NeatChars s.toList

theorem NeatChars.append {xs ys : List Char} (hx : NeatChars xs) (hy : NeatChars ys) :
    NeatChars (xs ++ [' '] ++ ys) where
  ne_nil := by simp
  trimmed := by
    refine ⟨fun c hc => hx.trimmed.first c ?_, fun c hc => hy.trimmed.last c ?_⟩
    · rw [List.append_assoc, List.head?_append_of_ne_nil _ hx.ne_nil] at hc
      exact hc
    · rw [List.getLast?_append_of_ne_nil _ hy.ne_nil] at hc
      exact hc
  oneLine := by
    intro c hc
    simp only [List.mem_append, List.mem_singleton] at hc
    rcases hc with (hc | rfl) | hc
    · exact hx.oneLine c hc
    · decide
    · exact hy.oneLine c hc

theorem NeatChars.intercalate {ps : List (List Char)} (hps : ps ≠ []) (h : ∀ p ∈ ps, NeatChars p) :
    NeatChars ([' '].intercalate ps) := by
  induction ps with
  | nil => exact absurd rfl hps
  | cons p ps ih =>
    rw [List.forall_mem_cons] at h
    cases ps with
    | nil => simpa using h.1
    | cons q ps =>
      rw [List.intercalate_cons_cons]
      exact h.1.append (ih (List.cons_ne_nil _ _) h.2)

theorem neat_trim {s : String} (hs : ∀ c ∈ s.toList, isTerminator c = false)
    (hne : trim s ≠ "") : Neat (trim s) := by
  rw [Neat, trim, String.toList_ofList]
  refine ⟨fun h => hne ?_, trimChars_trimmed _, fun c hc => hs c (mem_of_mem_trimChars hc)⟩
  rw [trim, h]

theorem Neat.not_blank {s : String} (h : Neat s) : isBlankText s = false := by
  rw [isBlankText, List.all_eq_false]
  have hne : s.toList ≠ [] := h.ne_nil
  refine ⟨s.toList.head hne, List.head_mem hne, ?_⟩
  simp [h.trimmed.first _ (List.head?_eq_some_head hne)]

end EventMarkup.Text

namespace EventMarkup.Wiki

open Text (Neat NeatChars)

/-- Parts that are neat or empty, some of them not empty, are neat together. -/
theorem joinParts_neat {parts : List String} (h : ∀ p ∈ parts, p ≠ "" → Neat p)
    (hne : ∃ p ∈ parts, p ≠ "") : Neat (joinParts parts) := by
  obtain ⟨p, hp, hpne⟩ := hne
  have hps : parts.filter (· ≠ "") ≠ [] :=
    List.ne_nil_of_mem (List.mem_filter.mpr ⟨hp, by simpa using hpne⟩)
  rw [Neat, joinParts, String.toList_intercalate]
  refine NeatChars.intercalate (by simpa using hps) fun q hq => ?_
  obtain ⟨s, hs, rfl⟩ := List.mem_map.mp hq
  rw [List.mem_filter, decide_eq_true_eq] at hs
  exact h s hs.1 hs.2

theorem joinParts_of_empty {parts : List String} (h : ∀ p ∈ parts, p = "") :
    joinParts parts = "" := by
  have hf : parts.filter (· ≠ "") = [] := by simpa using h
  rw [joinParts, hf]
  rfl

/-- Neat parts with spaces between them are blank only if all of them are empty. -/
theorem joinParts_blank_iff {parts : List String} (h : ∀ p ∈ parts, p ≠ "" → Neat p) :
    Text.isBlankText (joinParts parts) = true ↔ ∀ p ∈ parts, p = "" := by
  constructor
  · intro hb
    by_contra hc
    push Not at hc
    have hn := (joinParts_neat h hc).not_blank
    rw [hb] at hn
    cases hn
  · intro he
    rw [joinParts_of_empty he]
    rfl

end EventMarkup.Wiki
