import EventMarkup.Wiki.Cursor

/-!
# Lines pushed back

What is asked of a cursor, failures included, leaves a history: each call with what came of it. The
history alone tells which lines are in front of the cursor and which of them can be pushed back.

* `move_way`: the four ways a move can go.
* `Tells.step`, `Tells.run`: the line that can be pushed back is the one that the latest call gave,
  where calls that failed do not count.
* `kept_calls`: in front of the cursor are the lines that were given and not pushed back.
* `calls_answered`: what follows for a text.
-/
namespace EventMarkup.Wiki.Cursor

/-! ## Histories -/

/-- A move that was made, and what came of it. -/
structure Call where
  move : Move
  result : Except Fault (Option String)

def Call.line? : Call → Option String
  | ⟨.next, .ok line?⟩ => line?
  | _ => none

/-- The calls that moves come to, in their order. -/
def calls (c : Cursor) : List Move → List Call
  | [] => []
  | m :: rest => ⟨m, (c.move m).result⟩ :: calls (c.move m).after rest

def given (h : List Call) : List String := h.filterMap Call.line?

/-- The latest call, where calls that failed do not count. -/
def latest? (h : List Call) : Option Call := (h.filter fun call => call.result.isOk).getLast?

/-- Whether these calls push back the line that was given before them: a push back goes well, and
no other line is given before it. -/
def pushesBack : List Call → Bool
  | [] => false
  | ⟨.unget, .ok _⟩ :: _ => true
  | ⟨.next, .ok (some _)⟩ :: _ => false
  | _ :: rest => pushesBack rest

/-- The lines that were given, without each one that was pushed back. -/
def kept : List Call → List String
  | [] => []
  | call :: rest =>
    match call.line? with
    | none => kept rest
    | some line => if pushesBack rest then kept rest else line :: kept rest

theorem line?_eq_some_iff {call : Call} {line : String} :
    call.line? = some line ↔ call = ⟨.next, .ok (some line)⟩ := by
  obtain ⟨m, r⟩ := call
  cases m <;> cases r <;> simp [Call.line?]

theorem latest?_concat (h : List Call) (call : Call) :
    latest? (h ++ [call]) = if call.result.isOk then some call else latest? h := by
  by_cases hok : call.result.isOk = true <;> simp [latest?, List.filter_append, hok]

theorem given_concat (h : List Call) (call : Call) :
    given (h ++ [call]) = given h ++ call.line?.toList := by
  cases hl : call.line? <;> simp [given, List.filterMap_append, hl]

/-! ## One move -/

/-- The line that can be pushed back. -/
def returnable? (c : Cursor) : Option String := if c.canUnget then c.before.head? else none

/-- All lines of the text under a cursor. -/
def whole (c : Cursor) : List String := c.before.reverse ++ c.after

theorem lineNumber_le_whole (c : Cursor) : c.lineNumber ≤ c.whole.length := by
  simp [whole, lineNumber]

theorem take_whole (c : Cursor) : c.whole.take c.lineNumber = c.before.reverse :=
  List.take_left' List.length_reverse

theorem getElem?_whole (c : Cursor) : c.whole[c.lineNumber]? = c.after.head? := by
  rw [whole, lineNumber, ← List.length_reverse, List.getElem?_append_right (Nat.le_refl _),
    Nat.sub_self, List.head?_eq_getElem?]

/-- The ways a move can go. -/
inductive Way : Cursor → Move → Outcome Cursor (Option String) → Prop where
  | given (line : String) (before rest : List String) (u : Bool) :
    Way ⟨before, line :: rest, u⟩ .next (.done ⟨line :: before, rest, true⟩ (some line))
  | ended (before : List String) (u : Bool) :
    Way ⟨before, [], u⟩ .next (.done ⟨before, [], false⟩ none)
  | returned (line : String) (before after : List String) :
    Way ⟨line :: before, after, true⟩ .unget (.done ⟨before, line :: after, false⟩ none)
  | refused (c : Cursor) (h : c.returnable? = none) : Way c .unget (.fail c .nothingToUnget)

theorem move_way (c : Cursor) (m : Move) : Way c m (c.move m) := by
  obtain ⟨before, after, u⟩ := c
  cases m with
  | next =>
    cases after with
    | nil => exact .ended before u
    | cons line rest => exact .given line before rest u
  | unget =>
    cases u with
    | false => exact .refused _ rfl
    | true =>
      cases before with
      | nil => exact .refused _ rfl
      | cons line before => exact .returned line before after

namespace Way

variable {c : Cursor} {m : Move} {o : Outcome Cursor (Option String)}

theorem whole_eq (w : Way c m o) : o.after.whole = c.whole := by
  cases w <;> simp [Outcome.done, Outcome.fail, whole]

/-- The mark that a line can be pushed back is set where a line has been read only. -/
theorem behind_line (w : Way c m o) (h : c.canUnget = true → c.before ≠ []) :
    o.after.canUnget = true → o.after.before ≠ [] := by
  cases w with
  | given => exact fun _ => List.cons_ne_nil _ _
  | ended | returned => exact fun hu => nomatch hu
  | refused => exact h

end Way

theorem move_next_result (c : Cursor) : (c.move .next).result = .ok c.after.head? := by
  obtain ⟨before, after, u⟩ := c
  cases after <;> rfl

theorem move_unget_cases (c : Cursor) :
    (∃ line, c.returnable? = some line ∧ c.lineNumber = c.before.tail.length + 1 ∧
      c.move .unget = .done ⟨c.before.tail, line :: c.after, false⟩ none) ∨
    (c.returnable? = none ∧ c.move .unget = .fail c .nothingToUnget) := by
  have w := move_way c .unget
  generalize c.move .unget = o at w
  cases w with
  | returned line before after => exact .inl ⟨line, rfl, rfl, rfl⟩
  | refused _ h => exact .inr ⟨h, rfl⟩

theorem unget_done_iff {c : Cursor} :
    (∃ c', c.move .unget = .done c' none) ↔ ∃ line, c.returnable? = some line := by
  rcases c.move_unget_cases with ⟨line, hline, -, hmove⟩ | ⟨hnone, hmove⟩
  · exact ⟨fun _ => ⟨line, hline⟩, fun _ => ⟨_, hmove⟩⟩
  · rw [hmove, hnone]
    constructor <;> rintro ⟨_, h⟩ <;> cases h

/-! ## Moves one after the other -/

theorem moveAll_keeps {P : Cursor → Prop} (hmove : ∀ c m, P c → P (c.move m).after) {c : Cursor}
    (h : P c) (ms : List Move) : P (c.moveAll ms) := by
  induction ms generalizing c with
  | nil => exact h
  | cons m ms ih => exact ih (hmove c m h)

theorem whole_moveAll (c : Cursor) (ms : List Move) : (c.moveAll ms).whole = c.whole :=
  moveAll_keeps (P := fun d => d.whole = c.whole)
    (fun d m h => (move_way d m).whole_eq.trans h) rfl ms

theorem behind_line_ofText (t : String) (ms : List Move) :
    ((ofText t).moveAll ms).canUnget = true → ((ofText t).moveAll ms).before ≠ [] :=
  moveAll_keeps (P := fun d => d.canUnget = true → d.before ≠ [])
    (fun d m => (move_way d m).behind_line) Bool.noConfusion ms

/-- What a history tells of a cursor: the line that can be pushed back is the one that the latest
call gave, and it is the last of all lines given. -/
structure Tells (h : List Call) (c : Cursor) : Prop where
  latest : (latest? h).bind Call.line? = c.returnable?
  last : ∀ line, c.returnable? = some line → (given h).getLast? = some line

namespace Tells

variable {h : List Call} {c : Cursor}

theorem step (ht : Tells h c) (m : Move) :
    Tells (h ++ [⟨m, (c.move m).result⟩]) (c.move m).after := by
  have w := move_way c m
  generalize c.move m = o at w
  -- a refused call leaves both the cursor and the latest call as they were
  constructor
  · rw [latest?_concat]
    cases w with
    | refused => exact ht.latest
    | given | ended | returned => rfl
  · intro line hline
    rw [given_concat]
    cases w with
    | given => simpa [Call.line?, Outcome.done, returnable?] using hline
    | ended | returned => cases hline
    | refused => simpa [Call.line?, Outcome.fail] using ht.last line hline

theorem run (ht : Tells h c) (ms : List Move) : Tells (h ++ c.calls ms) (c.moveAll ms) := by
  -- move by move, a call goes over from those to come to the history
  induction ms generalizing h c with
  | nil => simpa [calls, moveAll] using ht
  | cons m ms ih => simpa [calls, moveAll] using ih (ht.step m)

theorem returnable?_eq_some_iff (ht : Tells h c) {line : String} :
    c.returnable? = some line ↔ latest? h = some ⟨.next, .ok (some line)⟩ := by
  rw [← ht.latest, Option.bind_eq_some_iff]
  simp only [line?_eq_some_iff, exists_eq_right]

end Tells

theorem moveAll_refused {c : Cursor} (h : c.returnable? = none) {ms : List Move}
    (hms : .next ∉ ms) : c.moveAll ms = c := by
  induction ms with
  | nil => rfl
  | cons m ms ih =>
    rw [List.mem_cons, not_or] at hms
    have w := move_way c m
    rw [moveAll]
    generalize c.move m = o at w
    cases w with
    | given | ended => exact absurd rfl hms.1
    | returned => cases h
    | refused => exact ih hms.2

/-- A line that was pushed back is the next one to be given. -/
theorem next_after_unget {c c' : Cursor} (h : c.move .unget = .done c' none) :
    c'.lineNumber + 1 = c.lineNumber ∧ ∃ line, c.returnable? = some line ∧
      ∀ us : List Move, .next ∉ us → ((c'.moveAll us).move .next).result = .ok (some line) := by
  rcases c.move_unget_cases with ⟨line, hline, hnumber, hmove⟩ | ⟨-, hmove⟩
  · cases hmove.symm.trans h
    refine ⟨hnumber.symm, line, hline, fun us hus => ?_⟩
    rw [moveAll_refused rfl hus, move_next_result]
    rfl
  · cases hmove.symm.trans h

theorem pushesBack_calls {c : Cursor} (h : c.returnable? = none) (ms : List Move) :
    pushesBack (c.calls ms) = false := by
  induction ms generalizing c with
  | nil => rfl
  | cons m ms ih =>
    have w := move_way c m
    rw [calls]
    generalize c.move m = o at w
    cases w with
    | given => rfl
    | ended => exact ih rfl
    | returned => cases h
    | refused => exact ih h

/-- In front of the cursor are the lines that were there, less the last one if it is pushed back, and
the lines that were given and not pushed back. -/
theorem kept_calls (c : Cursor) (ms : List Move) :
    (c.moveAll ms).before.reverse =
      (if pushesBack (c.calls ms) then c.before.tail else c.before).reverse ++
        kept (c.calls ms) := by
  induction ms generalizing c with
  | nil => simp [moveAll, calls, pushesBack, kept]
  | cons m ms ih =>
    have w := move_way c m
    rw [moveAll, calls]
    generalize c.move m = o at w
    rw [ih]
    cases w with
    | given line before rest u =>
      by_cases hback : pushesBack (calls ⟨line :: before, rest, true⟩ ms) = true <;>
        simp [Outcome.done, pushesBack, kept, Call.line?, hback]
    | ended => rfl
    | returned line before after =>
      -- the line in front of the one pushed back stays: only one can be pushed back
      have hback : pushesBack (calls ⟨before, line :: after, false⟩ ms) = false :=
        pushesBack_calls rfl ms
      simp [Outcome.done, pushesBack, kept, Call.line?, hback]
    | refused => rfl

/-! ## A text -/

/-- No line of a fresh text can be pushed back, and its history is empty. -/
theorem tells_ofText (t : String) : Tells [] (ofText t) where
  latest := rfl
  last _ hline := nomatch (show none = some _ from hline)

theorem kept_ofText (t : String) (ms : List Move) :
    ((ofText t).moveAll ms).before.reverse = kept ((ofText t).calls ms) := by
  rw [kept_calls, pushesBack_calls rfl]
  rfl

example : kept ((ofText "a\nb").calls [.next, .unget, .unget, .next, .next, .next, .unget]) =
    ["a", "b"] := by decide

/-- **A cursor over a text.** Whatever is asked of it, failures included:

* It stands between the lines of the text, and behind one of them if that can be pushed back.
* A line can be pushed back just if the latest call gave one, where calls that failed do not count.
  If none can, to ask for it is refused as a wrong value and changes nothing.
* The line pushed back is the one given last, and it is the next to be given, also if in between
  more lines are asked to be pushed back.
* The next line is the one of the text, and there is none just if all of them have been read.
* The lines that were given and not pushed back are the first ones of the text. -/
theorem calls_answered (t : String) (ms : List Move) :
    let c := (ofText t).moveAll ms
    let h := (ofText t).calls ms
    c.lineNumber ≤ (Text.lines t).length ∧
    (c.canUnget = true → 0 < c.lineNumber) ∧
    ((∃ c', c.move .unget = .done c' none) ↔
      ∃ line, latest? h = some ⟨.next, .ok (some line)⟩) ∧
    ((∃ c', c.move .unget = .done c' none) ∨
      c.move .unget = .fail c .nothingToUnget ∧ Fault.nothingToUnget.report.kind = .value) ∧
    (∀ c', c.move .unget = .done c' none → c'.lineNumber + 1 = c.lineNumber ∧
      ∃ line, (given h).getLast? = some line ∧
        ∀ us : List Move, .next ∉ us → ((c'.moveAll us).move .next).result = .ok (some line)) ∧
    (c.move .next).result = .ok (Text.lines t)[c.lineNumber]? ∧
    ((c.move .next).result = .ok none ↔ c.lineNumber = (Text.lines t).length) ∧
    kept h = (Text.lines t).take c.lineNumber := by
  intro c h
  have htells : Tells h c := (tells_ofText t).run ms
  have hlines : c.whole = Text.lines t := whole_moveAll (ofText t) ms
  rw [← hlines]
  refine ⟨c.lineNumber_le_whole, ?_, ?_, ?_, ?_, ?_, ?_, ?_⟩
  · exact fun hu => List.length_pos_iff.mpr (behind_line_ofText t ms hu)
  · rw [unget_done_iff]
    exact exists_congr fun line => htells.returnable?_eq_some_iff
  · rcases c.move_unget_cases with ⟨_, -, -, hmove⟩ | ⟨-, hmove⟩
    · exact .inl ⟨_, hmove⟩
    · exact .inr ⟨hmove, rfl⟩
  · intro c' hmove
    obtain ⟨hnumber, line, hline, hnext⟩ := next_after_unget hmove
    exact ⟨hnumber, line, htells.last line hline, hnext⟩
  · rw [move_next_result, getElem?_whole]
  · have hle := c.lineNumber_le_whole
    rw [move_next_result, ← getElem?_whole, Except.ok.injEq, List.getElem?_eq_none_iff]
    omega
  · rw [take_whole]
    exact (kept_ofText t ms).symm

end EventMarkup.Wiki.Cursor
