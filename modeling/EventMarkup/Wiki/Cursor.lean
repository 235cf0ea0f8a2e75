import EventMarkup.Outcome
import EventMarkup.Text.Blank
import EventMarkup.Text.Lines

/-!
# Line cursors

A text is read line by line. The line read last can be pushed back, once; reading past the end or
pushing a line back leaves nothing to push back.
-/
namespace EventMarkup.Wiki

/-- A position between the lines of a text. `before` holds the lines read, the last one first. -/
structure Cursor where
  before : List String := []
  after : List String
  canUnget : Bool := false
  deriving DecidableEq, Repr

namespace Cursor

def ofText (t : String) : Cursor := { after := Text.lines t }

def lineNumber (c : Cursor) : Nat := c.before.length

def next (c : Cursor) : Option String × Cursor :=
  match c.after with
  | [] => (none, { c with canUnget := false })
  | line :: rest => (some line, ⟨line :: c.before, rest, true⟩)

/-- The cursor before the line read last, if that line can be pushed back. -/
def unget (c : Cursor) : Except Fault Cursor :=
  match c.canUnget, c.before with
  | true, line :: read => .ok ⟨read, line :: c.after, false⟩
  | _, _ => .error .nothingToUnget

/-- What can be asked of a cursor: to give the next line, or to push the last one back. -/
inductive Move where
  | next
  | unget
  deriving DecidableEq, Repr

/-- Does what is asked of a cursor. The answer is the line given, if there is one; a cursor that
cannot push a line back stays as it is. -/
def move (c : Cursor) : Move → Outcome Cursor (Option String)
  | .next => .done c.next.2 c.next.1
  | .unget =>
    match c.unget with
    | .ok c' => .done c' none
    | .error f => .fail c f

/-- Does one move after the other, failed ones included. -/
def moveAll (c : Cursor) : List Move → Cursor
  | [] => c
  | m :: rest => moveAll (c.move m).after rest

/-! ## Runs of lines -/

/-- The trimmed lines up to the next blank one, from `after` on, and the cursor behind the blank
line. The first argument holds the lines read before. -/
def runFrom (before : List String) : (after : List String) → List String × Cursor
  | [] => ([], ⟨before, [], false⟩)
  | line :: rest =>
    if Text.isBlankText line then ([], ⟨line :: before, rest, true⟩)
    else
      let (lines, c) := runFrom (line :: before) rest
      (Text.trim line :: lines, c)

/-- The trimmed lines up to the next blank one, and the cursor behind that. -/
def run (c : Cursor) : List String × Cursor := runFrom c.before c.after

theorem length_after_runFrom (before after : List String) :
    (runFrom before after).2.after.length ≤ after.length := by
  induction after generalizing before with
  | nil => simp [runFrom]
  | cons line rest ih =>
    by_cases h : Text.isBlankText line = true
    · simp [runFrom, h]
    · simp only [runFrom, h, List.length_cons]
      exact Nat.le_succ_of_le (ih _)

theorem length_after_run (c : Cursor) : c.run.2.after.length ≤ c.after.length :=
  length_after_runFrom _ _

end Cursor

end EventMarkup.Wiki
