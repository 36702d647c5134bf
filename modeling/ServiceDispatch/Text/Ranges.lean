/-!
# Ranges of code points

A set of characters given by the intervals of its code points. The property tables of this folder
are values of this type. Membership scans the intervals; the tables are rising, but nothing here
depends on that.
-/

namespace ServiceDispatch.Text

/-- A set of characters as a list of closed intervals of code points. -/
structure Ranges where
  /-- First and last code point of each interval. -/
  intervals : List (Nat × Nat)

namespace Ranges

/-- Whether a code point lies in one of the intervals. -/
def contains (ranges : Ranges) (code : Nat) : Bool :=
  ranges.intervals.any fun interval => interval.1 ≤ code && code ≤ interval.2

/-- Membership is lying in some interval of the table. -/
theorem contains_iff {ranges : Ranges} {code : Nat} :
    ranges.contains code = true ↔
      ∃ interval ∈ ranges.intervals, interval.1 ≤ code ∧ code ≤ interval.2 := by
  simp [contains, List.any_eq_true]

end Ranges

end ServiceDispatch.Text
