import Catalogue.Search.Computed

/-!
# Queries that descend from one another

A computed query is copied and rewritten, and scorers are opened from it and from what was made of
it. All of these live side by side, and each may outlive the others. What descends from one query
shares one slot, where the first failure of a score is kept.
-/

namespace Catalogue

namespace ComputedQuery

/-- The same query with its plan replaced, or the query as it is if there is no other plan. -/
def rewrite {σ : Type} (q : ComputedQuery σ) (replace : Plan → Option Plan) : ComputedQuery σ :=
  match replace q.plan with
  | some plan => { q with plan }
  | none => q

/-- The same query with another boost. -/
def withBoost {σ : Type} (q : ComputedQuery σ) (boost : Float32) : ComputedQuery σ := { q with boost }

end ComputedQuery

/-- Something that is held together with the number of the slot that it shares. -/
structure Held (α : Type) where
  item : α
  slot : Nat

/-- A scorer with the query it was opened from, as that was then. -/
structure OpenScorer (σ : Type) where
  query : ComputedQuery σ
  scorer : ComputedScorer

namespace OpenScorer

variable {σ : Type}

/-- Moves to the next match. -/
def advance (c : OpenScorer σ) : OpenScorer σ := { c with scorer := c.scorer.advance }

/-- Moves to the first match at or after a document. -/
def seek (c : OpenScorer σ) (target : Nat) : OpenScorer σ :=
  { c with scorer := c.scorer.seek target }

/-- The score of the current document. -/
def score (c : OpenScorer σ) (s : SearchState σ) : (Float32 × OpenScorer σ) × SearchState σ :=
  let (x, scorer, s) := c.query.scoreCurrent c.scorer s
  ((x, { c with scorer }), s)

end OpenScorer

/-- The queries and scorers that there are, in the order in which they were made, with the slots
they share and the state of all listeners. -/
structure Pool (σ : Type) where
  world : σ
  slots : List (Option ScoreError)
  queries : List (Held (ComputedQuery σ))
  scorers : List (Held (OpenScorer σ))

namespace Pool

variable {σ : Type}

/-- Nothing yet. -/
def start (world : σ) : Pool σ := ⟨world, [], [], []⟩

/-- Adds a new query, with a slot of its own. -/
def create (p : Pool σ) (q : ComputedQuery σ) : Pool σ :=
  { p with slots := p.slots ++ [none], queries := p.queries ++ [⟨q, p.slots.length⟩] }

/-- Adds what is made of a query. It shares the slot of the query. -/
def derive (p : Pool σ) (query : Nat) (make : ComputedQuery σ → ComputedQuery σ) : Pool σ :=
  match p.queries[query]? with
  | some q => { p with queries := p.queries ++ [⟨make q.item, q.slot⟩] }
  | none => p

/-- Copies a query. -/
def clone (p : Pool σ) (query : Nat) : Pool σ := p.derive query id

/-- Rewrites a query. The query as it was stays. -/
def rewrite (p : Pool σ) (query : Nat) (replace : Plan → Option Plan) : Pool σ :=
  p.derive query (·.rewrite replace)

/-- Gives a query another boost. -/
def withBoost (p : Pool σ) (query : Nat) (boost : Float32) : Pool σ :=
  p.derive query (·.withBoost boost)

/-- Opens a scorer of a query in a segment. It shares the slot of the query. -/
def openScorer (p : Pool σ) (query : Nat) (segment : Segment) (boost : Float32) : Pool σ :=
  match p.queries[query]? with
  | some q => { p with scorers := p.scorers ++ [⟨⟨q.item, q.item.scorer segment boost⟩, q.slot⟩] }
  | none => p

/-- Works on the listeners and a slot. -/
def onSlot {α : Type} (p : Pool σ) (slot : Nat) (f : SearchState σ → α × SearchState σ) :
    α × Pool σ :=
  let (a, s) := f ⟨p.world, p.slots[slot]?.getD none⟩
  (a, { p with world := s.world, slots := p.slots.set slot s.failure })

/-- Changes a scorer. It keeps its slot. -/
def setScorer (p : Pool σ) (scorer : Nat) (f : OpenScorer σ → OpenScorer σ) : Pool σ :=
  match p.scorers[scorer]? with
  | some c => { p with scorers := p.scorers.set scorer ⟨f c.item, c.slot⟩ }
  | none => p

/-- Moves a scorer to its next match. -/
def advance (p : Pool σ) (scorer : Nat) : Pool σ := p.setScorer scorer .advance

/-- Moves a scorer to its first match at or after a document. -/
def seek (p : Pool σ) (scorer target : Nat) : Pool σ := p.setScorer scorer (·.seek target)

/-- The score of the document a scorer stands on. -/
def score (p : Pool σ) (scorer : Nat) : Option Float32 × Pool σ :=
  match p.scorers[scorer]? with
  | some c =>
    let ((x, next), p) := p.onSlot c.slot c.item.score
    (some x, p.setScorer scorer fun _ => next)
  | none => (none, p)

/-- Explains the score that a query gives a document. -/
def explain (p : Pool σ) (query : Nat) (segment : Segment) (doc : Nat) :
    Option (Except ExplainError Explanation) × Pool σ :=
  match p.queries[query]? with
  | some q =>
    let (result, p) := p.onSlot q.slot (q.item.explain segment doc)
    (some result, p)
  | none => (none, p)

/-- Takes the first failure out of the slot of a query. -/
def takeFailure (p : Pool σ) (query : Nat) : Option (Option ScoreError) × Pool σ :=
  match p.queries[query]? with
  | some q =>
    let (failure, p) := p.onSlot q.slot SearchState.takeFailure
    (some failure, p)
  | none => (none, p)

end Pool

end Catalogue
