/-!
# Ranking

The best matches come first; of equal scores, the one that comes first in the index.
-/

namespace Catalogue

/-- A match: where it is, and its score. -/
structure Ranked where
  segment : Nat
  doc : Nat
  score : Float32
  deriving DecidableEq

/-- The lowest finite score. A match must score more to be ranked at all. -/
def lowestScore : Float32 := Float32.ofBits 0xFF7FFFFF

/-- The first `limit` of all matches that can be ranked, best first. Matches come in the order of
the index, and keep it where scores are equal. -/
def topRanked (limit : Nat) (found : List Ranked) : List Ranked :=
  ((found.filter fun r => r.score > lowestScore).mergeSort fun a b => a.score ≥ b.score).take limit

end Catalogue
