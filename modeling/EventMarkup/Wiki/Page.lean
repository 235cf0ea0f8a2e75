import EventMarkup.Outcome
import EventMarkup.Wiki.Reader

/-!
# Pages

A page is read block by block: blank lines are passed over, and the first reader that accepts a line
reads the block that it starts. A page with a line that no reader accepts is not read at all.
-/
namespace EventMarkup.Wiki

/-- The blocks of the page under a cursor, and the cursor at its end. -/
def readBlocks (readers : List BlockReader) (c : Cursor) : Except Fault (List Block × Cursor) :=
  match _h : c.after with
  | [] => .ok ([], { c with canUnget := false })
  | line :: rest =>
    let c' : Cursor := ⟨line :: c.before, rest, true⟩
    if Text.isBlankText line then readBlocks readers c'
    else match readers.find? fun r => r.accepts line with
      | none => .error (.unparsed c'.lineNumber line)
      | some r =>
        match readBlocks readers c'.run.2 with
        | .error f => .error f
        | .ok (blocks, e) => .ok (r.block line c'.run.1 :: blocks, e)
termination_by c.after.length
decreasing_by
  · simp [_h]
  · have := c'.length_after_run
    simp only [_h, List.length_cons]
    exact Nat.lt_succ_of_le this

def events (blocks : List Block) : List Event := blocks.flatMap Block.events

end EventMarkup.Wiki
