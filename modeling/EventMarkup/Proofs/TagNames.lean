import EventMarkup.Proofs.OpenTags
import EventMarkup.Proofs.Parts
import EventMarkup.Proofs.StartTags

/-!
# The tags that an event may write

Whatever the qualifier and the attributes, no piece of markup is a tag of two names
(`Style.IsTag.name_eq`), and neither text nor a comment is a tag. So an event writes tags of its own
names only (`Render.respond_avoids`), unless it writes raw text.
-/
namespace EventMarkup

open Render

/-- Whether a text is a word of letters and digits. -/
def isPlain (n : String) : Bool := n ≠ "" && n.toList.all Char.isAlphanum

theorem isPlain_iff {n : String} :
    isPlain n = true ↔ n ≠ "" ∧ ∀ c ∈ n.toList, c.isAlphanum = true := by
  simp [isPlain]

/-! ## Tags as characters -/

/-- Attributes as characters: none, or from a space to a quote. -/
theorem Tag.attributes_toList (a : Attributes) :
    (Tag.attributes a).toList = [] ∨
      ∃ xs, (Tag.attributes a).toList = ' ' :: xs ++ ['\x22'] := by
  have hentries (es : List (String × String)) :
      (es.foldr (fun e rest => Tag.attributeText e.1 e.2 ++ rest) "").toList = [] ∨
        ∃ xs, (es.foldr (fun e rest => Tag.attributeText e.1 e.2 ++ rest) "").toList =
          ' ' :: xs ++ ['\x22'] := by
    induction es with
    | nil => exact Or.inl rfl
    | cons e es ih =>
      refine Or.inr ?_
      rw [List.foldr_cons, String.toList_append]
      rcases ih with h | ⟨xs, h⟩
      · rw [h]
        exact ⟨e.1.toList ++ "=\x22".toList ++ (Text.escape e.2).toList,
          by simp [Tag.attributeText]⟩
      · rw [h]
        exact ⟨e.1.toList ++ "=\x22".toList ++ (Text.escape e.2).toList ++ '\x22' :: ' ' :: xs,
          by simp [Tag.attributeText]⟩
  exact hentries _

namespace Style

variable {st : Style} {n m p : String} {a : Attributes}

/-- Whether a piece is a tag with a name, of whichever kind and whatever its attributes are. -/
def IsTag (st : Style) (n p : String) : Prop :=
  (∃ a, p = st.startTag n a) ∨ (∃ a, p = st.singleTag n a) ∨ p = st.endTag n

theorem isTag_start (st : Style) (n : String) (a : Attributes) : st.IsTag n (st.startTag n a) :=
  Or.inl ⟨a, rfl⟩

theorem isTag_single (st : Style) (n : String) (a : Attributes) : st.IsTag n (st.singleTag n a) :=
  Or.inr (Or.inl ⟨a, rfl⟩)

theorem isTag_finish (st : Style) (n : String) : st.IsTag n (st.endTag n) := Or.inr (Or.inr rfl)

theorem tagName_eq (st : Style) : ∃ mark, ∀ n, st.tagName n = mark ++ n.toList := by
  unfold tagName Tag.qualified
  cases st.qualifier with
  | none => exact ⟨[], fun _ => rfl⟩
  | some q =>
    by_cases hq : q = ""
    · exact ⟨[], fun _ => by simp [hq]⟩
    · exact ⟨q.toList ++ [':'], fun _ => by simp [hq]⟩

theorem startTag_toList (st : Style) (n : String) (a : Attributes) :
    ∃ c xs, (st.startTag n a).toList = '<' :: (st.tagName n ++ c :: xs) ∧
      Tag.inName c = false := by
  have h : (st.startTag n a).toList =
      '<' :: (st.tagName n ++ ((Tag.attributes a).toList ++ ['>'])) := by
    simp [startTag, Tag.start, tagName]
  rw [h]
  rcases Tag.attributes_toList a with ha | ⟨xs, ha⟩ <;> rw [ha]
  · exact ⟨'>', [], rfl, by decide⟩
  · exact ⟨' ', _, rfl, by decide⟩

theorem singleTag_toList (st : Style) (n : String) (a : Attributes) :
    ∃ c xs, (st.singleTag n a).toList = '<' :: (st.tagName n ++ c :: xs) ∧
      Tag.inName c = false := by
  have h : (st.singleTag n a).toList =
      '<' :: (st.tagName n ++ ((Tag.attributes a).toList ++ [' ', '/', '>'])) := by
    simp [singleTag, Tag.single, tagName]
  rw [h]
  rcases Tag.attributes_toList a with ha | ⟨xs, ha⟩ <;> rw [ha]
  · exact ⟨' ', _, rfl, by decide⟩
  · exact ⟨' ', _, rfl, by decide⟩

theorem endTag_toList (st : Style) (n : String) :
    (st.endTag n).toList = '<' :: '/' :: (st.tagName n ++ ['>']) := by
  simp [endTag, Tag.finish, tagName]

/-- A tag as characters: perhaps a slash, its name, and then a space or a closing bracket. -/
theorem IsTag.toList (h : st.IsTag n p) :
    ∃ (slash : Bool) (c : Char) (xs : List Char), Tag.inName c = false ∧
      p.toList = '<' :: ((if slash then ['/'] else []) ++ st.tagName n ++ c :: xs) := by
  rcases h with ⟨a, rfl⟩ | ⟨a, rfl⟩ | rfl
  · obtain ⟨c, xs, h, hc⟩ := st.startTag_toList n a
    exact ⟨false, c, xs, hc, h⟩
  · obtain ⟨c, xs, h, hc⟩ := st.singleTag_toList n a
    exact ⟨false, c, xs, hc, h⟩
  · exact ⟨true, '>', [], by decide, st.endTag_toList n⟩

/-! ## Names of tags -/

/-- A slash does not come before a name that goes on without one. -/
theorem slash_ne {mark xs : List Char} (ys : List Char) (h : xs.head? ≠ some '/') :
    mark ++ xs ≠ '/' :: (mark ++ ys) := by
  induction mark with
  | nil =>
    rintro rfl
    exact h rfl
  | cons c mark ih =>
    intro heq
    rw [List.cons_append, List.cons.injEq] at heq
    obtain ⟨rfl, heq⟩ := heq
    exact ih heq

theorem isPlain_inName {c : Char} (h : c.isAlphanum = true) : Tag.inName c = true := by
  have hgap : c ≠ ' ' ∧ c ≠ '>' := by
    constructor <;> rintro rfl <;> exact absurd h (by decide)
  simp [Tag.inName, hgap]

theorem plain_head (hn : isPlain n = true) (xs : List Char) :
    (n.toList ++ xs).head? ≠ some '/' := by
  obtain ⟨hne, hall⟩ := isPlain_iff.mp hn
  intro h
  cases hl : n.toList with
  | nil => exact hne (String.toList_eq_nil_iff.mp hl)
  | cons c cs =>
    rw [hl] at h
    obtain rfl := Option.some.inj h
    exact absurd (hall '/' (by simp [hl])) (by decide)

/-- A piece is not a tag of two plain names. -/
theorem IsTag.name_eq (h : st.IsTag n p) (h' : st.IsTag m p) (hn : isPlain n = true)
    (hm : isPlain m = true) : n = m := by
  obtain ⟨mark, hmark⟩ := st.tagName_eq
  obtain ⟨slash, c, xs, hc, hp⟩ := h.toList
  obtain ⟨slash', d, ys, hd, hp'⟩ := h'.toList
  rw [hp, List.cons.injEq, hmark, hmark] at hp'
  obtain ⟨-, hp'⟩ := hp'
  have hall {n : String} (hn : isPlain n = true) : n.toList.all Tag.inName = true :=
    List.all_eq_true.mpr fun _ hc => isPlain_inName ((isPlain_iff.mp hn).2 _ hc)
  have hname : mark ++ (n.toList ++ c :: xs) = mark ++ (m.toList ++ d :: ys) := by
    cases slash <;> cases slash' <;>
      simp only [if_true, Bool.false_eq_true, if_false, List.append_assoc, List.nil_append,
        List.cons_append] at hp'
    · exact hp'
    · exact absurd hp' (slash_ne _ (plain_head hn _))
    · exact absurd hp'.symm (slash_ne _ (plain_head hm _))
    · exact (List.cons.inj hp').2
  have htake := congrArg (List.takeWhile Tag.inName) (List.append_cancel_left hname)
  rw [(Tag.takeWhile_upTo (hall hn) hc xs).1, (Tag.takeWhile_upTo (hall hm) hd ys).1] at htake
  exact String.toList_inj.mp htake

theorem startTag_ne_endTag (hn : isPlain n = true) : st.startTag n a ≠ st.endTag n := by
  intro h
  obtain ⟨mark, hmark⟩ := st.tagName_eq
  obtain ⟨c, xs, hs, -⟩ := st.startTag_toList n a
  have heq := hs.symm.trans ((congrArg String.toList h).trans (st.endTag_toList n))
  rw [hmark, List.cons.injEq, List.append_assoc, List.append_assoc] at heq
  exact slash_ne _ (plain_head hn (c :: xs)) heq.2

/-! ## Ends of tags -/

theorem tagName_last (st : Style) (hn : isPlain n = true) :
    ∃ xs c, st.tagName n = xs ++ [c] ∧ c ≠ '-' := by
  obtain ⟨mark, hmark⟩ := st.tagName_eq
  obtain ⟨hne, hall⟩ := isPlain_iff.mp hn
  obtain ⟨ys, c, hys⟩ : ∃ ys c, n.toList = ys ++ [c] :=
    ⟨_, _, (List.dropLast_append_getLast (fun h => hne (String.toList_eq_nil_iff.mp h))).symm⟩
  refine ⟨mark ++ ys, c, by rw [hmark, hys, List.append_assoc], ?_⟩
  rintro rfl
  exact absurd (hall '-' (by simp [hys])) (by decide)

/-- A tag ends in a bracket, and no hyphen comes before it. -/
theorem IsTag.ends (h : st.IsTag n p) (hn : isPlain n = true) :
    ∃ xs c, p.toList = xs ++ [c, '>'] ∧ c ≠ '-' := by
  obtain ⟨ns, c, hname, hc⟩ := st.tagName_last hn
  rcases h with ⟨a, rfl⟩ | ⟨a, rfl⟩ | rfl
  · have h : (st.startTag n a).toList =
        '<' :: (st.tagName n ++ ((Tag.attributes a).toList ++ ['>'])) := by
      simp [startTag, Tag.start, tagName]
    rcases Tag.attributes_toList a with ha | ⟨xs, ha⟩
    · exact ⟨'<' :: ns, c, by simp [h, ha, hname], hc⟩
    · exact ⟨'<' :: (st.tagName n ++ ' ' :: xs), '\x22', by simp [h, ha], by decide⟩
  · exact ⟨'<' :: (st.tagName n ++ (Tag.attributes a).toList ++ [' ']), '/',
      by simp [singleTag, Tag.single, tagName], by decide⟩
  · exact ⟨'<' :: '/' :: ns, c, by simp [endTag_toList, hname], hc⟩

theorem not_isTag_comment (hn : isPlain n = true) (t : String) : ¬st.IsTag n (commentText t) := by
  intro h
  obtain ⟨xs, c, hp, hc⟩ := h.ends hn
  have ht : (commentText t).toList =
      ("<!-- ".toList ++ splitHyphens t.toList ++ [' ', '-']) ++ ['-', '>'] := by
    simp [commentText]
  exact hc (List.cons.inj (List.append_inj' (hp.symm.trans ht) rfl).2).1

theorem not_isTag_fragment (hn : isPlain n = true) :
    ¬st.IsTag n ("<" ++ Tag.qualified st.qualifier "img") := by
  intro h
  obtain ⟨xs, c, hp, -⟩ := h.ends hn
  obtain ⟨mark, hmark⟩ := st.tagName_eq
  have ht : ("<" ++ Tag.qualified st.qualifier "img").toList =
      ('<' :: mark ++ ['i']) ++ ['m', 'g'] := by
    have himg : ("<" ++ Tag.qualified st.qualifier "img").toList = '<' :: st.tagName "img" := by
      simp [tagName]
    simp [himg, hmark]
  have hend := (List.append_inj' (hp.symm.trans ht) rfl).2
  simp at hend

theorem not_isTag_plain (h : p.toList.head? ≠ some '<') : ¬st.IsTag n p := by
  intro ht
  obtain ⟨slash, c, xs, -, hp⟩ := ht.toList
  rw [hp] at h
  exact h rfl

theorem IsTag.ne_empty (h : st.IsTag n p) : p ≠ "" := by
  rintro rfl
  exact not_isTag_plain (by decide) h

end Style

/-! ## Pieces without a tag -/

def Avoids (st : Style) (n : String) (ps : List String) : Prop := ∀ p ∈ ps, ¬st.IsTag n p

/-! ## Events -/

theorem isPlain_heading {level : Int} (h : inRange level = true) :
    isPlain (heading level) = true := by
  simp only [inRange, Bool.and_eq_true, decide_eq_true_eq] at h
  obtain ⟨hlow, hhigh⟩ := h
  obtain rfl | rfl | rfl | rfl | rfl :
    level = 1 ∨ level = 2 ∨ level = 3 ∨ level = 4 ∨ level = 5 := by omega
  all_goals decide

theorem isPlain_tag (x : Element) : isPlain x.tag = true := by
  cases x <;> decide

theorem isPlain_cellTag (k : CellKind) : isPlain (cellTag k) = true := by
  cases k <;> decide

theorem Event.isPlain_tags {e : Event} : ∀ n ∈ e.tags, isPlain n = true := by
  cases e with
  | titleStart level | titleEnd level =>
    simp only [tags]
    split
    · rename_i hl
      exact fun n hn => List.mem_singleton.mp hn ▸ isPlain_heading hl
    · exact fun n hn => (List.not_mem_nil hn).elim
  | elementStart x | elementEnd x => exact fun n hn => List.mem_singleton.mp hn ▸ isPlain_tag x
  | cell k | cellEnd k => exact fun n hn => List.mem_singleton.mp hn ▸ isPlain_cellTag k
  | _ => simp only [tags]; decide

section
variable (st : Style) (s : RenderState) {n : String} (hn : isPlain n = true) {e : Event}
  (hraw : ∀ t, e ≠ .rawText t) (hne : n ∉ e.tags)
include hn hraw hne

/-- A part that fits an event is no tag of another name. -/
theorem Part.not_isTag {x : Part} (hx : x.Fits e) : ¬st.IsTag n (x.write st.qualifier) := by
  have hother {m p : String} (hm : m ∈ e.tags) (hp : st.IsTag m p) : ¬st.IsTag n p := fun h =>
    hne (h.name_eq hp hn (Event.isPlain_tags m hm) ▸ hm)
  cases x with
  | text t => exact Style.not_isTag_plain fun h => hx (List.mem_of_mem_head? h)
  | comment t => exact Style.not_isTag_comment hn t
  | raw t => exact absurd hx (hraw t)
  | imageStart => exact Style.not_isTag_fragment hn
  | start m a => exact hother hx (st.isTag_start m a)
  | single m a => exact hother hx (st.isTag_single m a)
  | finish m => exact hother hx (st.isTag_finish m)

/-- An event writes tags of its own names only. -/
theorem Render.respond_avoids : Avoids st n (respond st s e).pieces := by
  rw [Avoids, respond_parts, List.forall_mem_map]
  exact fun x hx => x.not_isTag st hn hraw hne (parts_fit st s e x hx)

end

end EventMarkup
