import Catalogue.Plan.Cursor
import Catalogue.Score.Error

/-!
# Explaining scores
-/

namespace Catalogue

/-- Why a document has its score. -/
inductive Explanation where
  | mk (value : Float32) (description : String) (details : List Explanation)

namespace Explanation

/-- The score that is explained. -/
def value : Explanation → Float32
  | mk v _ _ => v

/-- What the score is. -/
def description : Explanation → String
  | mk _ d _ => d

/-- What the score is made of. -/
def details : Explanation → List Explanation
  | mk _ _ l => l

end Explanation

/-- Why a score cannot be explained. -/
inductive ExplainError where
  | doesNotMatch (doc : Nat)
  | scoring (e : ScoreError)
  deriving DecidableEq

/-- The message for a score that cannot be explained. -/
def ExplainError.message : ExplainError → String
  | doesNotMatch doc =>
    s!"An invalid argument was passed: 'Document #({Decimal.natural doc}) does not match'"
  | scoring e => s!"Internal error: 'computed score failed: {e.message}'"

/-- The score of a document under a cursor that has not moved yet. It cannot move backwards. -/
def Cursor.scoreAt (c : Cursor) (doc : Nat) : Except ExplainError Float32 :=
  if c.doc ≤ doc && (c.seek doc).doc = doc then .ok (c.seek doc).score
  else .error (.doesNotMatch doc)

/-- The score of a document that at least `minimum` cursors share, none of which has moved. Where
there are fewer cursors, the place behind the last match is all that a cursor can stand on. -/
def sharedScoreAt (minimum : Nat) (parts : List Cursor) (doc : Nat) :
    Except ExplainError Float32 :=
  if parts.length < minimum then Cursor.empty.scoreAt doc
  else
    let a := AtLeast.aligned minimum parts
    if a.doc ≤ doc && (a.seek doc).doc = doc then .ok (a.seek doc).score
    else .error (.doesNotMatch doc)

/-- The explanations of the parts that match. -/
def matching (parts : List (Except ExplainError Explanation)) : List Explanation :=
  parts.filterMap fun
    | .ok e => some e
    | .error _ => none

mutual
/-- Explains the score of a document under a plan. -/
def Plan.explain (s : Segment) (doc : Nat) : Plan → Except ExplainError Explanation
  | .all => if s.length ≤ doc then .error (.doesNotMatch doc) else .ok (.mk 1.0 "AllQuery" [])
  | .none => .error (.doesNotMatch doc)
  | .term field token => do
    let x ← ((Plan.term field token).cursor s 1.0).scoreAt doc
    return .mk x "TermQuery" []
  | .boolean parts => do
    let x ← ((Plan.boolean parts).cursor s 1.0).scoreAt doc
    return .mk x "BooleanClause. sum of ..." (matching (explainClauses s doc parts))
  | .atLeast minimum parts => do
    let x ← sharedScoreAt (max 1 minimum) (allCursors s 1.0 parts) doc
    return .mk x s!"sum of at least {Decimal.natural (max 1 minimum)} matching clauses:"
      (matching (explainAll s doc parts))
  | .constant plan score => do
    let _ ← (plan.cursor s 1.0).scoreAt doc
    let inner ← plan.explain s doc
    return .mk score "Const" [inner]
  | .boost plan factor => do
    let inner ← plan.explain s doc
    return .mk (inner.value * factor) s!"Boost x{Decimal.plain32 factor} of ..." [inner]
  | .range field lower upper => do
    let x ← ((Plan.range field lower upper).cursor s 1.0).scoreAt doc
    return .mk x "RangeQuery" []

/-- Explains the score of a document under plans. -/
def explainAll (s : Segment) (doc : Nat) : List Plan → List (Except ExplainError Explanation)
  | [] => []
  | plan :: rest => plan.explain s doc :: explainAll s doc rest

/-- Explains the score of a document under the parts of a boolean plan that add to it. -/
def explainClauses (s : Segment) (doc : Nat) :
    List (Occur × Plan) → List (Except ExplainError Explanation)
  | [] => []
  | (occur, plan) :: rest =>
    if occur = .mustNot then explainClauses s doc rest
    else plan.explain s doc :: explainClauses s doc rest
end

end Catalogue
