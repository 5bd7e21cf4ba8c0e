/-!
# Ranges of code points

Tables of characters are lists of ranges, both ends included.

* `inRanges` — membership in one of the ranges.
* `inSteps` — the same where only every so many code points of a range belong to it.
-/

namespace Montage.Text

/-- Whether a code point lies in one of the ranges. -/
def inRanges (ranges : List (Nat × Nat)) (n : Nat) : Bool :=
  ranges.any fun r => r.1 ≤ n && n ≤ r.2

/-- A range of which every `step`-th code point counts. -/
structure Stride where
  low : Nat
  high : Nat
  step : Nat

/-- Whether a code point counts. -/
def Stride.contains (r : Stride) (n : Nat) : Bool :=
  r.low ≤ n && n ≤ r.high && (n - r.low) % r.step == 0

/-- Whether a code point counts in one of the ranges. -/
def inSteps (ranges : List Stride) (n : Nat) : Bool := ranges.any fun r => r.contains n

end Montage.Text
