import Catalogue.Index.Document
import Catalogue.Score.Error

/-!
# Announcements

A search announces each segment it enters and each document it is about to score. A context passes
announcements on to everything in it, in order. A listener that fails to enter a segment does not
keep the others from hearing of it; the first failure is reported once all have.
-/

namespace Catalogue

/-- Something that hears announcements and keeps what it learns in a state. -/
structure Listener (σ : Type) where
  onSegment : Segment → σ → Except ScoreError Unit × σ
  onDoc : Nat → σ → σ

/-- A tree of things that hear announcements. -/
inductive Context (α : Type) where
  | leaf (a : α)
  | all (children : List (Context α))

namespace Context

mutual
/-- What is in a context, from left to right. -/
def leaves {α : Type} : Context α → List α
  | leaf a => [a]
  | all children => childLeaves children

/-- What is in the parts of a context. -/
def childLeaves {α : Type} : List (Context α) → List α
  | [] => []
  | c :: rest => c.leaves ++ childLeaves rest
end

/-- The first failure of two. -/
def firstFailure : Except ScoreError Unit → Except ScoreError Unit → Except ScoreError Unit
  | .error e, _ => .error e
  | .ok _, r => r

mutual
/-- Announces a segment. -/
def onSegment {σ : Type} (segment : Segment) :
    Context (Listener σ) → σ → Except ScoreError Unit × σ
  | leaf a, s => a.onSegment segment s
  | all children, s => childrenOnSegment segment children s

/-- Announces a segment to the parts of a context. -/
def childrenOnSegment {σ : Type} (segment : Segment) :
    List (Context (Listener σ)) → σ → Except ScoreError Unit × σ
  | [], s => (.ok (), s)
  | c :: rest, s =>
    let (first, s) := c.onSegment segment s
    let (others, s) := childrenOnSegment segment rest s
    (firstFailure first others, s)
end

mutual
/-- Announces a document. -/
def onDoc {σ : Type} (doc : Nat) : Context (Listener σ) → σ → σ
  | leaf a, s => a.onDoc doc s
  | all children, s => childrenOnDoc doc children s

/-- Announces a document to the parts of a context. -/
def childrenOnDoc {σ : Type} (doc : Nat) : List (Context (Listener σ)) → σ → σ
  | [], s => s
  | c :: rest, s => childrenOnDoc doc rest (c.onDoc doc s)
end

mutual
/-- The number of parts of each context in a tree, a context after those inside it. -/
def partCounts {α : Type} : Context α → List Nat
  | leaf _ => []
  | all children => childCounts children ++ [children.length]

/-- The numbers of parts of the contexts in a list. -/
def childCounts {α : Type} : List (Context α) → List Nat
  | [] => []
  | c :: rest => c.partCounts ++ childCounts rest
end

end Context

end Catalogue
