import Readiness.Text.CodePoint

/-!
# Sets of characters

A large set of code points is kept as the increasing list of the points where membership changes:
it starts outside, enters at the first point, leaves at the second, and so on. A code point is in
the set exactly when an odd number of points lie at or below it, which a binary search counts.
-/

namespace Readiness

/-- A set of code points, given by the increasing points at which membership changes. -/
structure CharSet where
  /-- First members and first non-members of the runs, in turn. -/
  turns : Array Nat

namespace CharSet

/-- How many of the entries `lo, …, hi - 1` of the sorted array, and of those before, are at most
`x`, provided that all entries before `lo` are and no entry from `hi` on is. -/
def countAtMost (turns : Array Nat) (x lo hi : Nat) : Nat :=
  if lo < hi then
    let mid := (lo + hi) / 2
    if turns.getD mid 0 ≤ x then countAtMost turns x (mid + 1) hi
    else countAtMost turns x lo mid
  else lo
termination_by hi - lo

/-- Membership of a character. -/
def contains (s : CharSet) (c : CodePoint) : Bool :=
  countAtMost s.turns c.toNat 0 s.turns.size % 2 == 1

end CharSet

end Readiness
