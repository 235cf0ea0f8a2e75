import EventMarkup.Text.LowercaseTable

/-!
# Lower case

Character by character, independent of context: a capital sigma always becomes a medial one. One
character, the dotted capital I (U+0130), becomes two.
-/
namespace EventMarkup.Text

/-- The lower case of a code point that the runs, in increasing order, cover. -/
def CaseRun.image? (n : Nat) : List CaseRun → Option Nat
  | [] => none
  | run :: rest =>
    if n < run.first then none
    else if n ≤ run.last then
      if (n - run.first) % run.step = 0 then some (run.image + (n - run.first)) else none
    else image? n rest

def lowerChar (c : Char) : List Char :=
  if c = '\u0130' then ['i', '\u0307']
  else match CaseRun.image? c.toNat lowercaseRuns with
    | some n => [Char.ofNat n]
    | none => [c]

def lowerChars (cs : List Char) : List Char := cs.flatMap lowerChar

end EventMarkup.Text
