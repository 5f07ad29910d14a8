/-!
# Sets of characters

A set of code points is kept as the increasing list of the places where membership changes:
the first member, the first non-member after it, and so on. A code point belongs to the set
when an odd number of these places lie at or below it.
-/

namespace GridQuery.Text

/-- How many entries of the increasing array `xs` between `lo` and `hi` are at most `n`,
counted from the start of the array. -/
def countUpTo (xs : Array Nat) (n lo hi : Nat) : Nat :=
  if lo < hi then
    let mid := (lo + hi) / 2
    if xs.getD mid 0 ≤ n then countUpTo xs n (mid + 1) hi else countUpTo xs n lo mid
  else lo
termination_by hi - lo

/-- A set of code points, given by the places where membership changes. -/
structure CharSet where
  bounds : Array Nat

namespace CharSet

def contains (s : CharSet) (c : Char) : Bool :=
  countUpTo s.bounds c.toNat 0 s.bounds.size % 2 == 1

end CharSet

end GridQuery.Text
