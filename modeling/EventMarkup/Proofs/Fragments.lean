import EventMarkup.Proofs.Reader
import EventMarkup.Render.Block
import EventMarkup.Tag

/-!
# What a reader makes of tags

Tags, comments and escaped text as a reader sees them, provided that tag names are names to it
(`isName`) and attribute names hold neither quotes nor angle brackets (`isBare`). Values may hold
anything: written, they are bare.

* `read_start`, `read_finish`, `read_single`: a start tag opens its name, an end tag closes it, a
  tag that closes itself does neither.
* `read_comment`: a comment ends where it is written to end, whatever its text.
-/
namespace EventMarkup

/-- Whether a character is neither a quote nor an angle bracket. -/
def isBareChar (c : Char) : Bool := c ≠ '<' && c ≠ '>' && c ≠ '\x22'

def isBare (s : String) : Bool := s.toList.all isBareChar

def Attributes.Bare (a : Attributes) : Prop := ∀ x ∈ a.keys, isBare x = true

def isNameChar (c : Char) : Bool := c ≠ '<' && c ≠ '>' && c ≠ '/' && !isGap c

def isName (n : List Char) : Bool := n ≠ [] && n ≠ Reader.commentMark && n.all isNameChar

theorem isName_qualified {q : Option String} {n : String}
    (hq : ∀ p ∈ q, p.toList.all isNameChar = true) (hn : isName n.toList = true) :
    isName (Tag.qualified q n).toList = true := by
  cases q with
  | none => exact hn
  | some p =>
    simp only [Tag.qualified]
    split
    · exact hn
    · have hp := hq p rfl
      simp only [isName, Bool.and_eq_true] at hn
      have hm : (p ++ ":" ++ n).toList ≠ Reader.commentMark := fun h => by
        have hc : ':' ∈ (p ++ ":" ++ n).toList := by simp
        rw [h] at hc
        exact absurd hc (by decide)
      simp only [isName, Bool.and_eq_true, decide_eq_true_eq]
      refine ⟨⟨by simp, hm⟩, ?_⟩
      simp [hp, hn.2, isNameChar, isGap]

/-! ## Text -/

theorem entity_bare (c : Char) : (Text.entity c).all isBareChar = true := by
  unfold Text.entity
  repeat' split
  all_goals first | decide | simp_all [isBareChar]

theorem escape_bare (s : String) : (Text.escape s).toList.all isBareChar = true := by
  rw [Text.escape, String.toList_ofList, Text.escapeChars, List.all_flatMap, List.all_eq_true]
  exact fun c _ => entity_bare c

namespace Reader

variable {n : List Char} {os : List (List Char)}

theorem read_data {cs : List Char} (h : cs.all isBareChar = true) :
    (Reader.mk .data os).read cs = some ⟨.data, os⟩ := by
  induction cs with
  | nil => rfl
  | cons c cs ih =>
    simp only [List.all_cons, Bool.and_eq_true] at h
    have hc : step ⟨.data, os⟩ c = some ⟨.data, os⟩ := by simp_all [step, isBareChar]
    rw [read_cons, hc]
    exact ih h.2

theorem read_value {cs : List Char} (h : cs.all isBareChar = true) :
    (Reader.mk (.value n) os).read cs = some ⟨.value n, os⟩ := by
  induction cs with
  | nil => rfl
  | cons c cs ih =>
    simp only [List.all_cons, Bool.and_eq_true] at h
    have hc : step ⟨.value n, os⟩ c = some ⟨.value n, os⟩ := by simp_all [step, isBareChar]
    rw [read_cons, hc]
    exact ih h.2

theorem read_attributeName {cs : List Char} (h : cs.all isBareChar = true) (slash : Bool) :
    (Reader.mk (.tag n slash) os).read (cs ++ ['=']) = some ⟨.tag n false, os⟩ := by
  induction cs generalizing slash with
  | nil => simp [step]
  | cons c cs ih =>
    simp only [List.all_cons, Bool.and_eq_true] at h
    have hc : step ⟨.tag n slash, os⟩ c = some ⟨.tag n (c = '/'), os⟩ := by
      simp_all [step, isBareChar]
    rw [List.cons_append, read_cons, hc]
    exact ih h.2 _

/-! ## Tags -/

theorem step_nameChar {c : Char} (h : isNameChar c = true) (m : List Char) :
    step ⟨.name m, os⟩ c = some ⟨.name (m ++ [c]), os⟩ ∧
      step ⟨.finish m, os⟩ c = some ⟨.finish (m ++ [c]), os⟩ := by
  simp_all [step, isNameChar]

theorem read_name {cs : List Char} (h : cs.all isNameChar = true) (m : List Char) :
    (Reader.mk (.name m) os).read cs = some ⟨.name (m ++ cs), os⟩ := by
  induction cs generalizing m with
  | nil => simp
  | cons c cs ih =>
    simp only [List.all_cons, Bool.and_eq_true] at h
    rw [read_cons, (step_nameChar h.1 m).1]
    simpa using ih h.2 (m ++ [c])

theorem read_finishName {cs : List Char} (h : cs.all isNameChar = true) (m : List Char) :
    (Reader.mk (.finish m) os).read cs = some ⟨.finish (m ++ cs), os⟩ := by
  induction cs generalizing m with
  | nil => simp
  | cons c cs ih =>
    simp only [List.all_cons, Bool.and_eq_true] at h
    rw [read_cons, (step_nameChar h.1 m).2]
    simpa using ih h.2 (m ++ [c])

/-- A reader in a start tag that may end: after its name or after an attribute. -/
def InTag (n : List Char) (os : List (List Char)) (r : Reader) : Prop :=
  r = ⟨.name n, os⟩ ∨ r = ⟨.tag n false, os⟩

theorem read_open (hn : isName n = true) :
    (Reader.mk .data os).read ('<' :: n) = some ⟨.name n, os⟩ := by
  simp only [isName, Bool.and_eq_true] at hn
  simpa [step] using read_name hn.2 []

section
variable {r : Reader} (hr : InTag n os r) (hn : isName n = true)
include hr hn

theorem InTag.gap : r.step ' ' = some ⟨.tag n false, os⟩ := by
  simp only [isName, Bool.and_eq_true, decide_eq_true_eq] at hn
  rcases hr with rfl | rfl <;> simp [step, isGap, hn]

theorem InTag.close : r.step '>' = some ⟨.data, n :: os⟩ := by
  simp only [isName, Bool.and_eq_true, decide_eq_true_eq] at hn
  rcases hr with rfl | rfl <;> simp [step, hn]

theorem InTag.single : r.read " />".toList = some ⟨.data, os⟩ := by
  have hs : " />".toList = [' ', '/', '>'] := by decide
  rw [hs, read_cons, hr.gap hn]
  simp [step]

theorem InTag.attributeStart {name : String} (hb : isBare name = true) :
    r.read (" " ++ name ++ "=\"").toList = some ⟨.value n, os⟩ := by
  have hs : (" " ++ name ++ "=\"").toList = ' ' :: (name.toList ++ ['='] ++ ['\x22']) := by simp
  rw [hs, read_cons, hr.gap hn, Option.bind_some, read_append, read_attributeName hb]
  simp [step]

theorem InTag.attribute {name value : String} (hb : isBare name = true) :
    r.read (Tag.attributeText name value).toList = some ⟨.tag n false, os⟩ := by
  rw [Tag.attributeText, String.toList_append, String.toList_append, read_append, read_append,
    hr.attributeStart hn hb, Option.bind_some, read_value (escape_bare value)]
  simp [step]

end

theorem InTag.attributes {r : Reader} {a : Attributes} (hr : InTag n os r) (hn : isName n = true)
    (ha : a.Bare) :
    ∃ r', r.read (Tag.attributes a).toList = some r' ∧ InTag n os r' := by
  obtain ⟨entries, hd⟩ := a
  simp only [Attributes.Bare, OrderedMap.keys, Tag.attributes] at ha ⊢
  clear hd
  induction entries generalizing r with
  | nil => exact ⟨r, by simp, hr⟩
  | cons e entries ih =>
    simp only [List.map_cons, List.forall_mem_cons] at ha
    have he : r.read (Tag.attributeText e.1 e.2).toList = some ⟨.tag n false, os⟩ :=
      hr.attribute hn ha.1
    obtain ⟨r', hread, hr'⟩ := ih (.inr rfl) ha.2
    refine ⟨r', ?_, hr'⟩
    rw [List.foldr_cons, String.toList_append, read_append, he]
    exact hread

section
variable {q : Option String} {t : String} {a : Attributes}
  (hn : isName (Tag.qualified q t).toList = true)
include hn

theorem read_begin (ha : a.Bare) (os : List (List Char)) (rest : String) :
    ∃ r, InTag (Tag.qualified q t).toList os r ∧
      (Reader.mk .data os).read ("<" ++ Tag.qualified q t ++ Tag.attributes a ++ rest).toList =
        r.read rest.toList := by
  have ho : (Reader.mk .data os).read ('<' :: (Tag.qualified q t).toList) = _ := read_open hn
  have hi : InTag (Tag.qualified q t).toList os ⟨.name (Tag.qualified q t).toList, os⟩ := .inl rfl
  obtain ⟨r, hread, hr⟩ := hi.attributes hn ha
  refine ⟨r, hr, ?_⟩
  have hs : ("<" ++ Tag.qualified q t ++ Tag.attributes a ++ rest).toList =
      ('<' :: (Tag.qualified q t).toList) ++ ((Tag.attributes a).toList ++ rest.toList) := by simp
  rw [hs, read_append, ho, Option.bind_some, read_append, hread, Option.bind_some]

theorem read_start (ha : a.Bare) :
    (Reader.mk .data os).read (Tag.start q t a).toList =
      some ⟨.data, (Tag.qualified q t).toList :: os⟩ := by
  obtain ⟨r, hr, hread⟩ := read_begin hn ha os ">"
  rw [Tag.start, hread]
  simp [hr.close hn]

theorem read_single (ha : a.Bare) :
    (Reader.mk .data os).read (Tag.single q t a).toList = some ⟨.data, os⟩ := by
  obtain ⟨r, hr, hread⟩ := read_begin hn ha os " />"
  rw [Tag.single, hread, hr.single hn]

theorem read_finish :
    (Reader.mk .data ((Tag.qualified q t).toList :: os)).read (Tag.finish q t).toList =
      some ⟨.data, os⟩ := by
  simp only [isName, Bool.and_eq_true] at hn
  have hs : (Tag.finish q t).toList = ['<', '/'] ++ (Tag.qualified q t).toList ++ ['>'] := by
    simp [Tag.finish]
  have ho : ∀ os, (Reader.mk .data os).read ['<', '/'] = some ⟨.finish [], os⟩ := by
    simp [step]
  rw [hs, read_append, read_append, ho, Option.bind_some, read_finishName hn.2]
  simp [step]

end

/-! ## Comments -/

/-- Text with its hyphens apart leaves a reader in the comment, after one hyphen at most. -/
theorem read_splitHyphens (os : List (List Char)) {k : Nat} (cs : List Char) (hk : k ≤ 1)
    (hc : k = 1 → cs.head? ≠ some '-') :
    ∃ k', k' ≤ 1 ∧ (Reader.mk (.comment k) os).read (Render.splitHyphens cs) =
      some ⟨.comment k', os⟩ := by
  induction cs generalizing k with
  | nil => exact ⟨k, hk, rfl⟩
  | cons c cs ih =>
    unfold Render.splitHyphens
    split
    · rename_i hh
      -- two hyphens in a row come out with a space after the first, so none was read before it
      have hk0 : k = 0 := by
        rcases Nat.le_one_iff_eq_zero_or_eq_one.mp hk with h | h
        · exact h
        · exact absurd (by simp [hh.1]) (hc h)
      obtain ⟨k', hk', hread⟩ := ih (Nat.zero_le 1) (by simp)
      refine ⟨k', hk', ?_⟩
      simpa [step, hh.1, hk0] using hread
    · rename_i hh
      have hs : step ⟨.comment k, os⟩ c = some ⟨.comment (if c = '-' then 1 else 0), os⟩ := by
        rcases Nat.le_one_iff_eq_zero_or_eq_one.mp hk with rfl | rfl
        · simp [step]
        · have hne : c ≠ '-' := fun h => hc rfl (by simp [h])
          simp [step, hne]
      have hle : (if c = '-' then 1 else 0) ≤ 1 := by split <;> decide
      obtain ⟨k', hk', hread⟩ := ih hle (fun h => by simp_all)
      refine ⟨k', hk', ?_⟩
      rw [read_cons, hs]
      exact hread

theorem read_comment (t : String) :
    (Reader.mk .data os).read (Render.commentText t).toList = some ⟨.data, os⟩ := by
  obtain ⟨k, hk, hread⟩ := read_splitHyphens os t.toList (Nat.zero_le 1) (by simp)
  have hstart : (Reader.mk .data os).read "<!-- ".toList = some ⟨.comment 0, os⟩ := by
    simp [step, isGap, commentMark]
  have hend : (Reader.mk (.comment k) os).read " -->".toList = some ⟨.data, os⟩ := by
    have hk2 : ¬2 ≤ k := by omega
    simp [step, hk2]
  rw [← String.toList_ofList (l := Render.splitHyphens t.toList)] at hread
  rw [Render.commentText, String.toList_append, String.toList_append, read_append, read_append,
    hstart, Option.bind_some, hread, Option.bind_some, hend]

end Reader

end EventMarkup
