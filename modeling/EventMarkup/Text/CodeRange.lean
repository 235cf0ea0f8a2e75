/-!
# Ranges of code points

A property of characters is given by closed ranges of code points in increasing order; membership
stops at the first range that lies above the code point.
-/
namespace EventMarkup.Text

/-- A closed range of code points. -/
abbrev CodeRange := Nat × Nat

/-- Whether a code point lies in one of the ranges, which are in increasing order. -/
def inRanges (n : Nat) : List CodeRange → Bool
  | [] => false
  | (lo, hi) :: rest => if n < lo then false else if n ≤ hi then true else inRanges n rest

end EventMarkup.Text
