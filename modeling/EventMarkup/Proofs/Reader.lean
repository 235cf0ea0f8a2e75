import EventMarkup.Text.LineEnding

/-!
# Reading markup

A reader takes markup character by character and keeps the names of the tags that are open. Markup
is *well nested* if a reader gets through it and no tag is open in the end. A reader gets stuck at

* an end tag that does not name the tag opened last,
* an angle bracket in a tag, or a closing one in text,
* two hyphens in a comment that do not end it.

Carriage returns and line feeds are alike to a reader, and so are one and two of them:
`read_normalize` says that it reads a text with other line endings as it reads the text itself.
-/
namespace EventMarkup

/-- Whether a character ends a name. -/
def isGap (c : Char) : Bool := c = ' ' || c = '\t' || c = '\n' || c = '\r'

/-- What a reader is in the middle of. Names are those read so far. -/
inductive Mode where
  /-- Text between tags. -/
  | data
  /-- The name of a start tag. -/
  | name (n : List Char)
  /-- The attributes of a start tag; `slash` if the last character was one. -/
  | tag (n : List Char) (slash : Bool)
  /-- The value of an attribute. -/
  | value (n : List Char)
  /-- The name of an end tag. -/
  | finish (n : List Char)
  /-- A comment; `hyphens` were read last. -/
  | comment (hyphens : Nat)
  deriving DecidableEq, Repr

/-- A reader: what it is in the middle of, and the names of the open tags, innermost first. -/
structure Reader where
  mode : Mode := .data
  opened : List (List Char) := []
  deriving DecidableEq, Repr

namespace Reader

/-- What a gap follows at the start of a comment, in place of the name of a tag. -/
def commentMark : List Char := ['!', '-', '-']

/-- Reads one character. -/
def step (r : Reader) (c : Char) : Option Reader :=
  match r.mode with
  | .data =>
    if c = '<' then some { r with mode := .name [] } else if c = '>' then none else some r
  | .name n =>
    if c = '<' then none
    else if c = '>' then (if n = [] then none else some ⟨.data, n :: r.opened⟩)
    else if c = '/' then some { r with mode := if n = [] then .finish [] else .tag n true }
    else if isGap c then
      if n = [] then none
      else some { r with mode := if n = commentMark then .comment 0 else .tag n false }
    else some { r with mode := .name (n ++ [c]) }
  | .tag n slash =>
    if c = '<' then none
    else if c = '>' then some ⟨.data, if slash then r.opened else n :: r.opened⟩
    else if c = '\x22' then some { r with mode := .value n }
    else some { r with mode := .tag n (c = '/') }
  | .value n =>
    if c = '<' || c = '>' then none
    else some { r with mode := if c = '\x22' then .tag n false else .value n }
  | .finish n =>
    if c = '>' then (if r.opened.head? = some n then some ⟨.data, r.opened.tail⟩ else none)
    else if c = '<' || isGap c then none
    else some { r with mode := .finish (n ++ [c]) }
  | .comment hyphens =>
    if 2 ≤ hyphens then (if c = '>' then some { r with mode := .data } else none)
    else some { r with mode := .comment (if c = '-' then hyphens + 1 else 0) }

def read (r : Reader) : List Char → Option Reader
  | [] => some r
  | c :: cs => (r.step c).bind fun r => read r cs

@[simp] theorem read_nil (r : Reader) : r.read [] = some r := rfl

@[simp] theorem read_cons (r : Reader) (c : Char) (cs : List Char) :
    r.read (c :: cs) = (r.step c).bind fun r => r.read cs := rfl

theorem read_append (r : Reader) (xs ys : List Char) :
    r.read (xs ++ ys) = (r.read xs).bind fun r => r.read ys := by
  induction xs generalizing r with
  | nil => rfl
  | cons c xs ih =>
    simp only [List.cons_append, read_cons, Option.bind_assoc]
    exact congrArg _ (funext ih)

end Reader

/-- Whether the tags of a text are well nested and closed. -/
def WellNested (t : String) : Prop := Reader.read {} t.toList = some {}

instance (t : String) : Decidable (WellNested t) := inferInstanceAs (Decidable (_ = _))

example : WellNested "<p id=\"a/\">x<br/><!-- <b>- -->&lt;</p>" := by decide

example : ¬WellNested "<i><b></i></b>" := by decide

namespace Reader

/-! ## Line endings -/

theorem step_cr (r : Reader) : r.step '\r' = r.step '\n' := by
  obtain ⟨mode, os⟩ := r
  cases mode <;> simp [step, isGap]

theorem step_lf_twice (r : Reader) : ((r.step '\n').bind fun r => r.step '\n') = r.step '\n' := by
  obtain ⟨mode, os⟩ := r
  cases mode with
  | name n =>
    by_cases hn : n = []
    · simp [step, isGap, hn]
    · by_cases hc : n = commentMark
      · simp [step, isGap, hc, commentMark]
      · simp [step, isGap, hn, hc]
  | comment hyphens => by_cases hh : 2 ≤ hyphens <;> simp [step, hh]
  | _ => simp [step, isGap]

theorem read_chars (r : Reader) (e : Text.LineEnding) : r.read e.chars = r.step '\n' := by
  cases e with
  | crlf => simpa [Text.LineEnding.chars, step_cr] using r.step_lf_twice
  | _ => simp [Text.LineEnding.chars, step_cr]

/-- Between line feeds it makes no difference whether a carriage return is dropped. -/
theorem read_lineUnit (r : Reader) (e : Text.LineEnding) (c : Char) (cs : List Char) :
    r.read (Text.lineUnit e.chars c cs.head? ++ cs) = r.read (c :: cs) := by
  unfold Text.lineUnit
  split
  · rename_i hc
    rw [read_append, read_chars, read_cons, hc]
  · split
    · rename_i hc
      split
      · rename_i hn
        obtain ⟨cs, rfl⟩ := List.head?_eq_some_iff.mp hn
        simp only [hc, List.nil_append, read_cons]
        rw [step_cr, ← Option.bind_assoc, step_lf_twice]
      · rw [read_append, read_chars, read_cons, hc, step_cr]
    · rfl

theorem read_replaceLineEndings (r : Reader) (e : Text.LineEnding) (cs : List Char) :
    r.read (Text.replaceLineEndings e.chars cs) = r.read cs := by
  induction cs generalizing r with
  | nil => rfl
  | cons c cs ih =>
    rw [← read_lineUnit r e c cs, Text.replaceLineEndings, read_append, read_append]
    exact congrArg _ (funext ih)

/-- A reader does not see which line endings a text is written with. -/
theorem read_normalize (r : Reader) (e : Text.LineEnding) (t : String) :
    r.read (Text.normalize e t).toList = r.read t.toList := by
  rw [Text.normalize, String.toList_ofList, read_replaceLineEndings]

end Reader

end EventMarkup
