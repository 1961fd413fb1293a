import Catalogue.Plan.Explanation
import Catalogue.Score.Operation
import Catalogue.Search.Context
import Catalogue.Search.Ranking

/-!
# Computed scores

A plan decides which documents match, and a score function of the current document decides what
they score. The context hears of a segment before its first document is scored, and of each
document once before it is. The first failure of a search is kept for its end; a document whose
score fails scores zero.

Collecting matches does not fail by itself: the files of an index are taken to be readable.
-/

namespace Catalogue

/-- A plan with a score function, and the context that hears where the search stands. -/
structure ComputedQuery (σ : Type) where
  plan : Plan
  boost : Float32
  context : Context (Listener σ)
  score : Evaluation σ Float32

/-- What the scorers of a search share: the state of its listeners, and the first failure. -/
structure SearchState (σ : Type) where
  world : σ
  failure : Option ScoreError

/-- Keeps a failure, unless there was one before. -/
def SearchState.record {σ : Type} (s : SearchState σ) (e : ScoreError) : SearchState σ :=
  { s with failure := s.failure.or (some e) }

/-- Takes the failure out. -/
def SearchState.takeFailure {σ : Type} (s : SearchState σ) : Option ScoreError × SearchState σ :=
  (s.failure, { s with failure := none })

/-- Whether a scorer has announced its segment. -/
inductive Stage where
  | pending
  | entered
  | failed
  deriving DecidableEq, Repr

/-- A computed query under way in one segment. -/
structure ComputedScorer where
  cursor : Cursor
  segment : Segment
  stage : Stage
  lastDoc : Option Nat
  weight : Float32

namespace ComputedScorer

/-- Moves to the next match. -/
def advance (c : ComputedScorer) : ComputedScorer := { c with cursor := c.cursor.advance }

/-- Moves to the first match at or after a document. -/
def seek (c : ComputedScorer) (target : Nat) : ComputedScorer :=
  { c with cursor := c.cursor.seek target }

end ComputedScorer

/-- The norm of a computed query. -/
def queryNorm : Float32 := 1.0

namespace ComputedQuery

/-- What scores are multiplied by, under a boost from above. -/
def weight {σ : Type} (q : ComputedQuery σ) (top : Float32) : Float32 := q.boost * queryNorm * top

/-- Starts the query in a segment. -/
def scorer {σ : Type} (q : ComputedQuery σ) (segment : Segment) (boost : Float32) :
    ComputedScorer :=
  ⟨q.plan.cursor segment boost, segment, .pending, none, q.weight boost⟩

/-- Announces the segment, if that is still to be done. -/
def enter {σ : Type} (q : ComputedQuery σ) (c : ComputedScorer) (s : SearchState σ) :
    ComputedScorer × SearchState σ :=
  match c.stage with
  | .pending =>
    match q.context.onSegment c.segment s.world with
    | (.ok _, world) => ({ c with stage := .entered }, { s with world := world })
    | (.error e, world) => ({ c with stage := .failed }, { s with world := world }.record e)
  | _ => (c, s)

/-- Announces the current document, unless it was the last one announced. -/
def moveTo {σ : Type} (q : ComputedQuery σ) (c : ComputedScorer) (s : SearchState σ) :
    ComputedScorer × SearchState σ :=
  let doc := c.cursor.doc
  if c.lastDoc = some doc then (c, s)
  else ({ c with lastDoc := some doc }, { s with world := q.context.onDoc doc s.world })

/-- Computes the score of the current document. -/
def compute {σ : Type} (q : ComputedQuery σ) (s : SearchState σ) :
    Except ScoreError Float32 × SearchState σ :=
  let (result, world) := (ExceptT.run q.score).run s.world
  (result, { s with world := world })

/-- The score of the current document: zero if the segment could not be entered, or if it cannot
be computed. -/
def scoreCurrent {σ : Type} (q : ComputedQuery σ) (c : ComputedScorer) (s : SearchState σ) :
    Float32 × ComputedScorer × SearchState σ :=
  let (c, s) := q.enter c s
  match c.stage with
  | .entered =>
    let (c, s) := q.moveTo c s
    match q.compute s with
    | (.ok x, s) => (x * c.weight, c, s)
    | (.error e, s) => (0.0, c, s.record e)
  | _ => (0.0, c, s)

/-- Scores the matches from the current one on, at most so many. -/
def scoreRest {σ : Type} (q : ComputedQuery σ) :
    Nat → ComputedScorer → SearchState σ → List (Nat × Float32) × SearchState σ
  | 0, _, s => ([], s)
  | more + 1, c, s =>
    let doc := c.cursor.doc
    let (x, c, s) := q.scoreCurrent c s
    let (rest, s) := q.scoreRest more c.advance s
    ((doc, x) :: rest, s)

/-- Scores all matches of a segment. -/
def scoreSegment {σ : Type} (q : ComputedQuery σ) (segment : Segment) (s : SearchState σ) :
    List (Nat × Float32) × SearchState σ :=
  let c := q.scorer segment 1.0
  q.scoreRest c.cursor.entries.length c s

/-- Scores all matches of segments, the first of which has the given number. -/
def scoreFrom {σ : Type} (q : ComputedQuery σ) :
    Nat → List Segment → SearchState σ → List Ranked × SearchState σ
  | _, [], s => ([], s)
  | number, segment :: rest, s =>
    let (scores, s) := q.scoreSegment segment s
    let (others, s) := q.scoreFrom (number + 1) rest s
    (scores.map (fun (doc, x) => ⟨number, doc, x⟩) ++ others, s)

/-- The best matches in an index. -/
def top {σ : Type} (q : ComputedQuery σ) (limit : Nat) (segments : List Segment)
    (s : SearchState σ) : List Ranked × SearchState σ :=
  let (found, s) := q.scoreFrom 0 segments s
  (topRanked limit found, s)

/-- Explains the score of a document. The context hears of its segment and of it again; failures
are not kept. -/
def explain {σ : Type} (q : ComputedQuery σ) (segment : Segment) (doc : Nat) (s : SearchState σ) :
    Except ExplainError Explanation × SearchState σ :=
  match (q.plan.cursor segment 1.0).scoreAt doc with
  | .error e => (.error e, s)
  | .ok _ =>
    match q.context.onSegment segment s.world with
    | (.error e, world) => (.error (.scoring e), { s with world := world })
    | (.ok _, world) =>
      let s := { s with world := q.context.onDoc doc world }
      match q.compute s with
      | (.error e, s) => (.error (.scoring e), s)
      | (.ok x, s) =>
        let details := [Explanation.mk x "computed score" [], .mk q.boost "boost" [],
          .mk queryNorm "queryNorm" []]
        (.ok (.mk (x * q.weight 1.0) "ComputedScore, product of:" details), s)

/-- The tokens that the query looks up: those of its plan. -/
def terms {σ : Type} (q : ComputedQuery σ) : List (Field × String) := q.plan.terms

/-- The query as text. -/
def describe {σ : Type} (q : ComputedQuery σ) : String :=
  let boost := Decimal.Layout.diagnostic.render (.ofFloat32 q.boost)
  s!"ComputedScoreQuery \x7b inner: {q.plan.describe}, boost: {boost}, .. \x7d"

end ComputedQuery

end Catalogue
