/-!
# Sets of characters given by ranges of code points

A property of characters is a list of ranges in increasing order, so the search stops at the
first range that lies above the character.
-/

namespace RpcStubs.Text

/-- Is `n` in one of the ranges `lo` to `hi`? -/
def inRanges : List (Nat × Nat) → Nat → Bool
  | [], _ => false
  | (lo, hi) :: rest, n => if n < lo then false else if n ≤ hi then true else inRanges rest n

/-- Is `n` one of the numbers `lo`, `lo + step`, … up to `hi` of some run? -/
def inRuns : List (Nat × Nat × Nat) → Nat → Bool
  | [], _ => false
  | (lo, hi, step) :: rest, n =>
    if n < lo then false else if n ≤ hi then (n - lo) % step == 0 else inRuns rest n

end RpcStubs.Text
