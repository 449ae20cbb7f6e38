import ChannelBridge.Power

/-! # Tables of code point ranges

A character class from the Unicode data is kept as a sorted array of disjoint inclusive ranges of
code points, and membership is a binary search over it.
-/

namespace ChannelBridge

namespace Text

/-- Whether `n` lies in one of the ranges `ranges[lo:hi]`, by halving the search window. -/
def inRanges (ranges : Array (Nat × Nat)) (n : Nat) (lo hi : Nat) : Bool :=
  if _h : lo < hi then
    let mid := (lo + hi) / 2
    match ranges[mid]? with
    | none => false
    | some (a, b) =>
      if n < a then inRanges ranges n lo mid
      else if b < n then inRanges ranges n (mid + 1) hi
      else true
  else false
termination_by hi - lo

end Text

end ChannelBridge
