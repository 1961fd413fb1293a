/-!
# Sets of code points

A Unicode property is a finite set of code points, kept as increasing closed ranges.
-/

namespace Catalogue.Text

/-- A set of code points as increasing, disjoint closed ranges. -/
abbrev Ranges := List (Nat × Nat)

/-- Membership. The ranges increase, so the search ends at the first that starts above `n`. -/
def Ranges.contains : Ranges → Nat → Bool
  | [], _ => false
  | (lo, hi) :: rest, n => if n < lo then false else n ≤ hi || Ranges.contains rest n

end Catalogue.Text
