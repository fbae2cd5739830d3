/-!
# Tables of code points

Properties of characters are kept as tables of code points: of ranges that have a property, of rows
of neighbours with a value each, of runs with one distance from their values, and of single code
points with several values.

## Main definitions

* `Text.inRanges`: whether a code point lies in a table of ranges
* `Text.neighbour?`: the value in a table of rows of neighbours
* `Text.shifted?`: the value in a table of runs
* `Text.sequence?`: the values in a table of single code points
-/

namespace LoggingProvider

namespace Text

/-- Whether a code point lies in one of the ranges of a table; both ends of a range belong to it. -/
def inRanges (table : List (Nat × Nat)) (n : Nat) : Bool :=
  table.any fun r => r.1 ≤ n && n ≤ r.2

/-- The value of a code point in a table of rows: each has its first code point and the values of
that one and of those after it. -/
def neighbour? (table : List (Nat × List Nat)) (n : Nat) : Option Nat :=
  table.findSome? fun row => if row.1 ≤ n then row.2[n - row.1]? else none

/-- The value of a code point in a table of runs: each has its first and its last code point, the
step from one to the next, and the value of the first. -/
def shifted? (table : List (Nat × Nat × Nat × Nat)) (n : Nat) : Option Nat :=
  table.findSome? fun (first, last, step, value) =>
    if first ≤ n && n ≤ last && (n - first) % step = 0 then some (value + (n - first)) else none

/-- The values of a code point in a table of single code points. -/
def sequence? (table : List (Nat × List Nat)) (n : Nat) : Option (List Nat) :=
  table.lookup n

end Text

end LoggingProvider
