import Catalogue.Index.AtLeast
import Catalogue.Index.Document
import Catalogue.Plan.Basic

/-!
# Running a plan over a segment

Every plan gives a cursor over its matches in a segment. Relevance by frequency has no part in a
computed score, so a bare token weighs nothing.
-/

namespace Catalogue

/-- The numbers of the documents with a property, in order. -/
def Segment.docsWhere (s : Segment) (p : Document → Bool) : List Nat :=
  (List.range s.length).filter fun d => s[d]?.any p

/-- Whether a token is between two bounds, by the order of bytes. -/
def Bound.encloses (lower upper : Bound) (token : String) : Bool :=
  (if lower.included then decide (lower.text ≤ token) else decide (lower.text < token)) &&
    (if upper.included then decide (token ≤ upper.text) else decide (token < upper.text))

/-- The score of a cursor's match of a document, if it has one. -/
def Cursor.scoreOf? (c : Cursor) (doc : Nat) : Option Float32 := c.entries.lookup doc

/-- Whether the parts of a boolean plan match a document. -/
def partsMatch (parts : List (Occur × Cursor)) (doc : Nat) : Bool :=
  let found (c : Cursor) : Bool := (c.scoreOf? doc).isSome
  let of (occur : Occur) := parts.filter fun p => p.1 = occur
  (of .must).all (fun p => found p.2) && (of .mustNot).all (fun p => !found p.2) &&
    (!(of .must).isEmpty || (of .should).any fun p => found p.2)

/-- The sum of the scores of the parts that match a document. -/
def partsScore (parts : List (Occur × Cursor)) (doc : Nat) : Float32 :=
  let scores := parts.filterMap fun p => if p.1 = .mustNot then none else p.2.scoreOf? doc
  match scores with
  | [] => 0.0
  | x :: rest => rest.foldl (· + ·) x

/-- The matches of a boolean plan among the first `count` documents. -/
def joinParts (count : Nat) (parts : List (Occur × Cursor)) : Cursor :=
  let docs := (List.range count).filter (partsMatch parts)
  ⟨docs.map fun d => (d, partsScore parts d), 0.0, docs.length⟩

/-- The cursor over documents that at least `minimum` parts match. More than there are parts match
none. -/
def sharedCursor (minimum : Nat) (parts : List Cursor) : Cursor :=
  if parts.length < minimum then .empty else (AtLeast.aligned minimum parts).toCursor

mutual
/-- The matches of a plan in a segment, scored under a boost. -/
def Plan.cursor (s : Segment) (boost : Float32) : Plan → Cursor
  | .all => .ofDocs (List.range s.length) boost
  | .none => .empty
  | .term field token => .ofDocs (s.docsWhere fun d => (d.tokens field).contains token) 0.0
  | .boolean parts => joinParts s.length (clauseCursors s boost parts)
  | .atLeast minimum parts => sharedCursor (max 1 minimum) (allCursors s boost parts)
  | .constant plan score => (plan.cursor s boost).scored (boost * score)
  | .boost plan factor => plan.cursor s (boost * factor)
  | .range field lower upper =>
    .ofDocs (s.docsWhere fun d => (d.tokens field).any (Bound.encloses lower upper)) boost

/-- The matches of plans. -/
def allCursors (s : Segment) (boost : Float32) : List Plan → List Cursor
  | [] => []
  | plan :: rest => plan.cursor s boost :: allCursors s boost rest

/-- The matches of the parts of a boolean plan. -/
def clauseCursors (s : Segment) (boost : Float32) : List (Occur × Plan) → List (Occur × Cursor)
  | [] => []
  | (occur, plan) :: rest => (occur, plan.cursor s boost) :: clauseCursors s boost rest
end

/-- The documents that a plan matches in a segment, in order. -/
def Plan.matches (p : Plan) (s : Segment) : List Nat := (p.cursor s 1.0).docs

end Catalogue
