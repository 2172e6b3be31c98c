/-!
# Classes of characters

A class of characters is given by the ranges of its code points, in ascending order.
-/

namespace BenchPlan.Text

/-- Ranges of code points, both ends included, ascending and apart from each other. -/
abbrev Ranges := List (Nat × Nat)

/-- Whether a code point lies in one of the ranges. -/
def Ranges.holds : Ranges → Nat → Bool
  | [], _ => false
  | (lo, hi) :: rest, n => if n < lo then false else n ≤ hi || holds rest n

end BenchPlan.Text
