import Catalogue.Score.Variables
import Catalogue.Search.Computed

/-!
# The scope of one search

Every search has variables and a context of its own. Listeners hear when a search starts and, in
reverse order and however it ends, when it is over.

The files of an index are taken to be readable: the stored fields of a segment can always be opened,
so that the fields never fail to enter it.
-/

namespace Catalogue

/-- The fields hear where a search stands. -/
def fieldListener : Listener ScoreState where
  onSegment segment s := (.ok (), s.fieldsEnter segment)
  onDoc doc s := s.fieldsMoveTo doc

/-- The variables hear that a search has moved on. -/
def variableListener : Listener ScoreState where
  onSegment _ s := (.ok (), s.invalidate)
  onDoc _ s := s.invalidate

/-- The context of a search: the fields, then the variables. -/
def searchContext : Context (Listener ScoreState) := .all [.leaf fieldListener, .leaf variableListener]

/-- Something told when a search starts and ends. At the end it may look at the variables. -/
structure ScopeListener (ε : Type) where
  onEnter : List Segment → ε
  onExit : Variables → ScoreState → ε × ScoreState

/-- Tells listeners that a search starts, in order. -/
def enterScope {ε : Type} (listeners : List (ScopeListener ε)) (segments : List Segment) : List ε :=
  listeners.map fun l => l.onEnter segments

/-- Tells listeners, in this order, that a search is over. -/
def leaveInOrder {ε : Type} (vs : Variables) : List (ScopeListener ε) → ScoreState → List ε
  | [], _ => []
  | l :: rest, s =>
    let (event, s) := l.onExit vs s
    event :: leaveInOrder vs rest s

/-- Tells listeners that a search is over, in reverse order. -/
def leaveScope {ε : Type} (listeners : List (ScopeListener ε)) (vs : Variables) (s : ScoreState) :
    List ε :=
  leaveInOrder vs listeners.reverse s

end Catalogue
