/-
Sets of characters as ascending boundary tables.

* `Boundaries.countUpTo`: how many entries of an ascending table are at
  most a given number, by bisection;
* `Boundaries.contains`: a table `a₀ < a₁ < a₂ < …` stands for the union
  of the half-open ranges `[a₀, a₁)`, `[a₂, a₃)`, …, so a number belongs
  to it exactly when an odd number of entries is at most that number.
-/
namespace MockupStudio.Text

/-- An ascending table of the numbers at which membership changes. -/
abbrev Boundaries := Array Nat

namespace Boundaries

/-- The first index in `[lo, hi)` whose entry exceeds `n`, or `hi`. -/
def countUpTo (table : Boundaries) (n lo hi : Nat) : Nat :=
  if lo < hi then
    let mid := (lo + hi) / 2
    if table.getD mid 0 ≤ n then countUpTo table n (mid + 1) hi
    else countUpTo table n lo mid
  else lo
termination_by hi - lo

/-- Whether `n` lies in one of the ranges of the table. -/
def contains (table : Boundaries) (n : Nat) : Bool :=
  table.countUpTo n 0 table.size % 2 = 1

end Boundaries

end MockupStudio.Text
