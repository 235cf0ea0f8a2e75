import EventMarkup.Proofs.LineEndings
import EventMarkup.Proofs.Output
import Mathlib.Data.List.Chain

/-!
# Comments stay closed

A comment ends with two hyphens and a bracket, so no two hyphens may stand side by side within it. A
space is put between them, and making line endings uniform never brings hyphens together, as nothing
but line endings goes and no line ending goes altogether.

* `spaced`, `isDoubled`: what is inserted, told of places in the text.
* `splitHyphens_apart`, `splitHyphens_eq_self_iff`: hyphens come apart, and nothing else changes.
* `replaceLineEndings_apart`: they stay apart.
* `comment_closed`: so a comment is closed where it ends and nowhere else.
-/
namespace EventMarkup

namespace Render

/-! ## Where spaces are inserted -/

/-- Whether a hyphen stands at a place, and another one behind it. -/
def isDoubled (cs : List Char) (i : Nat) : Bool := cs[i]? = some '-' && cs[i + 1]? = some '-'

/-- The characters in order, with a space behind each hyphen that another one follows. Each tells
whether it was inserted. -/
def spaced (cs : List Char) : List (Char × Bool) :=
  cs.zipIdx.flatMap fun x =>
    (x.1, false) :: if isDoubled cs x.2 then [(' ', true)] else []

theorem spaced_cons (c : Char) (cs : List Char) : spaced (c :: cs) =
    ((c, false) :: if isDoubled (c :: cs) 0 then [(' ', true)] else []) ++ spaced cs := by
  rw [spaced, List.zipIdx_cons, List.flatMap_cons, List.zipIdx_succ, List.flatMap_map]
  rfl

theorem isDoubled_zero (c : Char) (cs : List Char) :
    isDoubled (c :: cs) 0 = true ↔ c = '-' ∧ cs.head? = some '-' := by
  simp [isDoubled, List.head?_eq_getElem?]

theorem map_fst_spaced (cs : List Char) : (spaced cs).map Prod.fst = splitHyphens cs := by
  induction cs with
  | nil => rfl
  | cons c cs ih =>
    rw [spaced_cons, List.map_append, ih, splitHyphens]
    simp only [isDoubled_zero]
    split <;> rfl

/-- Without what was inserted the text is as it was. -/
theorem filter_spaced (cs : List Char) :
    ((spaced cs).filter fun x => !x.2).map Prod.fst = cs := by
  induction cs with
  | nil => rfl
  | cons c cs ih =>
    rw [spaced_cons, List.filter_append, List.map_append, ih]
    split <;> rfl

/-! ## Hyphens that stand apart -/

def HyphensApart (cs : List Char) : Prop := cs.IsChain fun a b => a = '-' → b ≠ '-'

theorem hyphensApart_iff {cs : List Char} :
    HyphensApart cs ↔ ∀ before after, cs ≠ before ++ '-' :: '-' :: after := by
  rw [HyphensApart, List.isChain_iff_forall_rel_of_append_cons_cons]
  refine ⟨fun h before after heq => h heq rfl rfl, ?_⟩
  rintro h a b before after heq rfl rfl
  exact h before after heq

theorem head?_splitHyphens (cs : List Char) : (splitHyphens cs).head? = cs.head? := by
  cases cs with
  | nil => rfl
  | cons c cs =>
    rw [splitHyphens]
    split <;> rfl

theorem splitHyphens_apart (cs : List Char) : HyphensApart (splitHyphens cs) := by
  induction cs with
  | nil => exact List.isChain_nil
  | cons c cs ih =>
    rw [splitHyphens]
    split
    · exact List.isChain_cons.mpr ⟨by simp, List.isChain_cons.mpr ⟨by simp, ih⟩⟩
    · rename_i hdoubled
      refine List.isChain_cons.mpr ⟨fun d hd hc hd' => hdoubled ⟨hc, ?_⟩, ih⟩
      rw [head?_splitHyphens] at hd
      exact hd' ▸ hd

theorem splitHyphens_eq_self_iff (cs : List Char) : splitHyphens cs = cs ↔ HyphensApart cs := by
  refine ⟨fun h => h ▸ splitHyphens_apart cs, fun h => ?_⟩
  induction cs with
  | nil => rfl
  | cons c cs ih =>
    obtain ⟨hhead, hrest⟩ := List.isChain_cons.mp h
    have hsingle : ¬(c = '-' ∧ cs.head? = some '-') := fun ⟨hc, hd⟩ => hhead '-' hd hc rfl
    rw [splitHyphens, if_neg hsingle, ih hrest]

end Render

/-! ## Line endings -/

namespace Text

open Render (HyphensApart)

/-- Making line endings uniform brings no hyphen to the front. -/
theorem head?_of_replaceLineEndings {e : LineEnding} {cs : List Char}
    (h : (replaceLineEndings e.chars cs).head? = some '-') : cs.head? = some '-' := by
  have hbreak (ds : List Char) : (e.chars ++ ds).head? ≠ some '-' := by
    cases e <;> simp [LineEnding.chars]
  cases cs with
  | nil => exact h
  | cons c cs =>
    rw [replaceLineEndings, lineUnit] at h
    split at h
    · exact absurd h (hbreak _)
    · split at h
      · split at h
        · -- the second half of the line ending comes next
          rename_i hfeed
          obtain ⟨rest, rfl⟩ := List.head?_eq_some_iff.mp hfeed
          exact absurd h (hbreak _)
        · exact absurd h (hbreak _)
      · exact h

theorem lineUnit_apart (e : LineEnding) (c : Char) (next : Option Char) :
    HyphensApart (lineUnit e.chars c next) := by
  unfold lineUnit
  repeat' split
  all_goals cases e <;> simp [HyphensApart, LineEnding.chars]

theorem replaceLineEndings_apart (e : LineEnding) {cs : List Char} (h : HyphensApart cs) :
    HyphensApart (replaceLineEndings e.chars cs) := by
  induction cs with
  | nil => exact h
  | cons c cs ih =>
    obtain ⟨hhead, hrest⟩ := List.isChain_cons.mp h
    refine (lineUnit_apart e c cs.head?).append (ih hrest) fun x hx y hy hx' hy' => ?_
    subst hx' hy'
    -- only the hyphen itself can be the last of what comes of a character
    have hc : c = '-' := by
      unfold lineUnit at hx
      repeat' split at hx
      all_goals cases e <;> simp_all [LineEnding.chars]
    exact hhead '-' (head?_of_replaceLineEndings hy) hc rfl

end Text

namespace Render

/-! ## Whole comments -/

theorem normalize_commentText (e : Text.LineEnding) (t : String) :
    Text.normalize e (commentText t) =
      "<!-- " ++ Text.normalize e (String.ofList (splitHyphens t.toList)) ++ " -->" := by
  have hend := Text.normalize_oneLine e (s := " -->") (by decide)
  rw [commentText, String.append_assoc, Text.normalize_oneLine_append e (by decide),
    Text.normalize_append e _ (by decide), hend, String.append_assoc]

/-- Around hyphens that stand apart, the marks of a comment hold the only hyphens that do not. -/
theorem doubled_in_marks {cs before after : List Char} (hcs : HyphensApart cs)
    (h : "<!-- ".toList ++ cs ++ " -->".toList = before ++ '-' :: '-' :: after) :
    before = ['<', '!'] ∨ after = ['>'] := by
  have hend : HyphensApart (cs ++ [' ', '-']) := by
    refine hcs.append (by simp) fun x _ y hy _ hy' => ?_
    subst hy'
    cases hy
  have hinner : HyphensApart ('-' :: ' ' :: (cs ++ [' ', '-'])) :=
    List.isChain_cons.mpr ⟨by simp, List.isChain_cons.mpr ⟨by simp, hend⟩⟩
  have hwhole : "<!-- ".toList ++ cs ++ " -->".toList =
      '<' :: '!' :: '-' :: ('-' :: ' ' :: (cs ++ [' ', '-']) ++ ['-', '>']) := by simp
  rw [hwhole] at h
  match before, h with
  | [], h | [_], h => simp at h
  | [a, b], h =>
    left
    simp only [List.cons_append, List.nil_append, List.cons.injEq] at h
    rw [← h.1, ← h.2.1]
  | a :: b :: c :: before, h =>
    right
    -- hyphens stand apart from the second one of the mark up to the last but the bracket
    have hsplit : '-' :: ' ' :: (cs ++ [' ', '-']) ++ ['-', '>'] =
        (before ++ ['-', '-']) ++ after := by
      simp only [List.cons_append, List.cons.injEq] at h
      simpa using h.2.2.2
    rcases List.append_eq_append_iff.mp hsplit with ⟨rest, hfront, hback⟩ | ⟨rest, hfront, -⟩
    · rcases rest with _ | ⟨x, _ | ⟨y, _ | ⟨z, rest⟩⟩⟩
      · exact absurd (by simpa using hfront.symm) (hyphensApart_iff.mp hinner before [])
      · exact (List.cons.inj hback).2.symm
      · obtain ⟨-, hy⟩ := List.cons.inj hback
        obtain ⟨rfl, -⟩ := List.cons.inj hy
        have htails := List.append_inj_right' hfront rfl
        simp at htails
      · simp at hback
    · exact absurd (by simpa using hfront) (hyphensApart_iff.mp hinner before rest)

/-- So the mark at the end stands there and nowhere else. -/
theorem mark_at_end {cs : List Char} (hcs : HyphensApart cs) (before after : List Char) :
    "<!-- ".toList ++ cs ++ " -->".toList = before ++ "-->".toList ++ after ↔
      before = "<!-- ".toList ++ cs ++ [' '] ∧ after = [] := by
  have hend : "<!-- ".toList ++ cs ++ " -->".toList =
      "<!-- ".toList ++ cs ++ [' '] ++ "-->".toList := by simp
  refine ⟨fun h => ?_, ?_⟩
  · have hdoubled : "<!-- ".toList ++ cs ++ " -->".toList =
        before ++ '-' :: '-' :: '>' :: after := by simpa using h
    rcases doubled_in_marks hcs hdoubled with rfl | hafter
    · simp at h
    · obtain ⟨-, rfl⟩ := List.cons.inj hafter
      rw [List.append_nil, hend] at h
      exact ⟨(List.append_cancel_right h).symm, rfl⟩
  · rintro ⟨rfl, rfl⟩
    rw [List.append_nil, hend]

/-- **Comments stay closed.** A comment is sent as one piece, whatever its text and the state: the
text between the marks of a comment, with a space behind exactly those hyphens that another one
follows. Without these spaces it is the text again, and it is the text as it is just if no two
hyphens stand side by side there. However lines end, the whole of what is written, as an open buffer
takes it, holds two hyphens side by side only in the mark at its start and in the one at its end,
and the latter nowhere else. -/
theorem comment_closed {k : Sink} (hv : k.vocabulary = .everything) (t : String) :
    let marked := spaced t.toList
    let body := String.ofList (marked.map Prod.fst)
    let written := Text.normalize k.style.lineEnding ("<!-- " ++ body ++ " -->")
    let inner := Text.normalize k.style.lineEnding body
    k.Writes (.comment t) ["<!-- " ++ body ++ " -->"] ∧
      (k.destination.OpenBuffer → (k.event (.comment t)).result = .ok () ∧
        (k.event (.comment t)).after.destination.text = k.destination.text ++ written) ∧
      (marked.filter fun x => !x.2).map Prod.fst = t.toList ∧
      (body = t ↔ ∀ before after, t.toList ≠ before ++ '-' :: '-' :: after) ∧
      written = "<!-- " ++ inner ++ " -->" ∧
      (∀ before after, written.toList = before ++ '-' :: '-' :: after →
        before = ['<', '!'] ∨ after = ['>']) ∧
      ∀ before after, written.toList = before ++ "-->".toList ++ after ↔
        before = ("<!-- " ++ inner ++ " ").toList ∧ after = [] := by
  intro marked body written inner
  have hbody : body = String.ofList (splitHyphens t.toList) :=
    congrArg String.ofList (map_fst_spaced t.toList)
  have hcomment : commentText t = "<!-- " ++ body ++ " -->" := by rw [hbody, commentText]
  have hwrites : k.Writes (.comment t) ["<!-- " ++ body ++ " -->"] := by
    rw [← hcomment]
    exact Sink.event_writes hv rfl
  have hself : body = t ↔ ∀ before after, t.toList ≠ before ++ '-' :: '-' :: after := by
    rw [← hyphensApart_iff, ← splitHyphens_eq_self_iff, hbody, ← String.toList_inj,
      String.toList_ofList]
  have hinner : inner =
      Text.normalize k.style.lineEnding (String.ofList (splitHyphens t.toList)) := by rw [← hbody]
  have hwritten : written = "<!-- " ++ inner ++ " -->" := by
    rw [hinner, ← normalize_commentText, hcomment]
  have happart : HyphensApart inner.toList := by
    rw [hinner, Text.normalize, String.toList_ofList, String.toList_ofList]
    exact Text.replaceLineEndings_apart _ (splitHyphens_apart t.toList)
  have hchars : written.toList = "<!-- ".toList ++ inner.toList ++ " -->".toList := by
    rw [hwritten, String.toList_append, String.toList_append]
  refine ⟨hwrites, fun hb => ?_, filter_spaced t.toList, hself, hwritten,
    fun before after h => doubled_in_marks happart (hchars.symm.trans h), fun before after => ?_⟩
  · have hone : String.join (["<!-- " ++ body ++ " -->"].map
        (Text.normalize k.style.lineEnding)) = written := by simp [written]
    rw [← hone]
    exact hwrites.buffer hb
  · rw [hchars, mark_at_end happart, String.toList_append, String.toList_append]
    rfl

/-- Runs of hyphens, at both ends and at a line ending. -/
theorem hyphenRuns_closed :
    let k := Sink.inMemory { Options.usual with lineEnding := .crlf }
    let written := "<!-- - - -\r\n- -> - -->"
    k.vocabulary = .everything ∧ k.destination.OpenBuffer ∧
      (k.event (.comment "---\r--> -")).after.destination.text = written ∧
      ∀ before after, written.toList = before ++ "-->".toList ++ after ↔
        before = "<!-- - - -\r\n- -> - ".toList ∧ after = [] := by
  intro k written
  have hv : k.vocabulary = .everything := rfl
  have hb : k.destination.OpenBuffer := ⟨rfl, rfl⟩
  obtain ⟨-, hbuffer, -, -, -, -, hends⟩ := comment_closed hv "---\r--> -"
  exact ⟨hv, hb, (hbuffer hb).2.trans (by decide), hends⟩

end Render

end EventMarkup
