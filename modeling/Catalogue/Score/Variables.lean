import Catalogue.Score.Graph

/-!
# The variables of one search

Each variable keeps its value until the next announcement of a segment or document, so that a
variable used by many others is computed once per document. Failures are not kept.
-/

namespace Catalogue

/-- What evaluation does to the outside: it loads the field of the leaf at a position, or applies
the function of the derived variable there. -/
inductive ScoreEvent where
  | loaded (position : Nat)
  | applied (position : Nat)
  deriving DecidableEq, Repr

/-- The state of a search's variables: where the search stands, how many announcements the
variables have heard, for each variable the value last computed and the announcement it belongs
to, and what was done so far, latest first. A counter of 64 bits comes to the same as `generation`
for the first 2^64 announcements of a search, and no search makes so many. -/
structure ScoreState where
  place : Place
  generation : Nat
  cells : List (Option (Nat × Value))
  events : List ScoreEvent

namespace ScoreState

/-- The state of so many variables before any announcement. -/
def start (count : Nat) : ScoreState := ⟨.start, 0, List.replicate count none, []⟩

/-- The fields hear of a segment. -/
def fieldsEnter (s : ScoreState) (segment : Segment) : ScoreState :=
  { s with place := s.place.enter segment }

/-- The fields hear of a document. -/
def fieldsMoveTo (s : ScoreState) (doc : Nat) : ScoreState :=
  { s with place := s.place.moveTo doc }

/-- The variables hear of a segment or a document: what they keep is out of date. -/
def invalidate (s : ScoreState) : ScoreState := { s with generation := s.generation + 1 }

/-- The value kept at a position, if it is of the current announcement. -/
def kept? (s : ScoreState) (position : Nat) : Option Value :=
  match s.cells[position]? with
  | some (some (seen, v)) => if seen = s.generation then some v else none
  | _ => none

/-- Keeps a value that was asked for at some announcement. -/
def keep (s : ScoreState) (position generation : Nat) (v : Value) : ScoreState :=
  { s with cells := s.cells.set position (some (generation, v)) }

/-- Notes what was done. -/
def note (s : ScoreState) (e : ScoreEvent) : ScoreState := { s with events := e :: s.events }

end ScoreState

/-- Reads a field of the current document. -/
def readProvider (f : Field) (kind : FieldKind) : Provider ScoreState :=
  ExceptT.mk fun s => (s.place.read f kind, s)

/-- Follows a provider's success by a note. -/
def noting (e : ScoreEvent) (p : Provider ScoreState) :
    Evaluation ScoreState Value := do
  let v ← p
  modify (·.note e)
  return v

/-- Keeps the value of a provider until the next announcement. -/
def memoized (position : Nat) (p : Provider ScoreState) :
    Evaluation ScoreState Value := do
  let s ← get
  match s.kept? position with
  | some v => return v
  | none =>
    let v ← p
    modify (·.keep position s.generation v)
    return v

/-- The provider of the variable at the next position, given those of the variables before it. -/
def Variable.provider (v : Variable) (earlier : List (Provider ScoreState)) :
    Except GraphError (Provider ScoreState) :=
  match v.source with
  | .leaf field kind =>
    match Field.ofName? field with
    | some f => .ok (memoized earlier.length (noting (.loaded earlier.length) (readProvider f kind)))
    | none => .error (.unknownField v.name field)
  | .derived inputs f =>
    match (inputs.mapM (earlier[·]?)).bind (f.bind? v.name) with
    | some p => .ok (memoized earlier.length (noting (.applied earlier.length) p))
    | none => .error (.arityMismatch v.name f.inputs.length inputs.length)

/-- The providers of variables, in order, after those of the variables before them. -/
def providersAfter (earlier : List (Provider ScoreState)) :
    List Variable → Except GraphError (List (Provider ScoreState))
  | [] => .ok earlier
  | v :: rest => do
    let p ← v.provider earlier
    providersAfter (earlier ++ [p]) rest

/-- The variables of one search. -/
structure Variables where
  graph : Graph
  providers : List (Provider ScoreState)

namespace Variables

/-- The variables of a graph. -/
def ofGraph (g : Graph) : Except GraphError Variables := do
  let providers ← providersAfter [] g.variables
  return ⟨g, providers⟩

/-- Their state before any announcement. -/
def start (vs : Variables) : ScoreState := .start vs.providers.length

/-- The provider of a variable. -/
def value? (vs : Variables) (name : String) : Option (Provider ScoreState) :=
  (vs.graph.position? name).bind (vs.providers[·]?)

/-- A number for the current document. -/
abbrev ScoreFunction := Evaluation ScoreState Float32

/-- The score function of a variable of type `float`. -/
def scoreFunction (vs : Variables) (name : String) : Except GraphError ScoreFunction := do
  vs.graph.checkEntry name
  match vs.value? name with
  | none => .error (.unknownEntry name)
  | some p =>
    return do
      let v ← p
      match v.as? .float with
      | some x => return x
      | none => throw (.valueType name .float v.type)

end Variables

end Catalogue
