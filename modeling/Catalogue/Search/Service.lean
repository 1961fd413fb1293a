import Catalogue.Book
import Catalogue.Search.Error
import Catalogue.Search.Scope

/-!
# The catalogue as a service

Books are added to a pending list and become searchable when it is committed. Searches see the
snapshot of the last commit and change nothing.
-/

namespace Catalogue

/-- An index: its segments, largest first, and whether a writer has it. -/
structure Index where
  segments : List Segment
  locked : Bool

namespace Index

/-- An index without documents. -/
def empty : Index := ⟨[], false⟩

/-- Segments in the order they are searched: the largest first. -/
def arrange (segments : List Segment) : List Segment :=
  segments.mergeSort fun a b => decide (b.length ≤ a.length)

/-- Adds a segment. -/
def push (i : Index) (s : Segment) : Index := { i with segments := arrange (i.segments ++ [s]) }

/-- Searches see an index once something was committed to it. -/
def snapshot (i : Index) : Option (List Segment) :=
  if i.segments.isEmpty then none else some i.segments

end Index

/-- What a service is opened with. -/
structure ServiceSettings where
  language : String
  heapSize : Nat
  deriving DecidableEq, Repr

/-- A service over an index, whose titles it stems. `pending` are the documents added since the last
commit, if any, and `snapshot` is what searches see, once there is something. -/
structure Service (ε : Type) where
  stemmer : Analysis.Stemmer
  graph : Graph
  score : String
  heapSize : Nat
  listeners : List (ScopeListener ε)
  pending : Option (List Document)
  snapshot : Option (List Segment)

/-- What an index makes of a document: whether a writer can be opened, if there is none, and whether
the writer takes the document. -/
structure AddOutcome where
  opened : Except String Unit
  taken : Except String Unit

/-- What an index makes of a commit: it fails, or what is pending is kept, and then finishing merges
or loading the index again may fail. -/
inductive CommitOutcome where
  | failed (reason : String)
  | kept (merged loaded : Except String Unit)

/-- Where a service is between adding and committing. -/
inductive ServiceState where
  | noWriter
  | writing
  | committed
  deriving DecidableEq, Repr

namespace Service

variable {ε : Type}

/-- Opens a service over an index, with a library of stemmers. The language, the fields and the
entry point are checked, in this order. -/
def create (stemmers : Analysis.Stemmers) (index : Index) (settings : ServiceSettings) (g : Graph)
    (score : String) : Except SearchError (Service ε) := do
  let language ← (Analysis.Language.ofName settings.language).mapError fun name =>
    .index (.invalidLanguage name)
  g.validateFields.mapError .graph
  (g.checkEntry score).mapError .graph
  return ⟨stemmers.of language, g, score, settings.heapSize, [], none, index.snapshot⟩

/-- Opens a service with the graph of scoring settings. -/
def ofSettings (stemmers : Analysis.Stemmers) (index : Index) (settings : ServiceSettings)
    (scoring : ScoringSettings) (registry : Registry) (score : String) :
    Except SearchError (Service ε) := do
  let g ← (Graph.ofSettings scoring registry).mapError .graph
  create stemmers index settings g score

/-- The analysis of titles and queries. -/
def analyzer (s : Service ε) : Analyzer := ⟨some s.stemmer⟩

/-! ## Changing the catalogue -/

/-- The number of writer threads for so much memory: up to eight, but none with too little. -/
def writerThreads (heapSize : Nat) : Nat :=
  if heapSize / 8 < leastThreadMemory then max 1 (heapSize / leastThreadMemory) else 8

/-- Checks that a writer can be had. -/
def checkWriter (index : Index) (heapSize : Nat) : Except WriterError Unit :=
  let memory := heapSize / writerThreads heapSize
  if index.locked then .error .busy
  else if memory < leastThreadMemory then .error .tooLittleMemory
  else if mostThreadMemory ≤ memory then .error .tooMuchMemory
  else .ok ()

/-- A book as a document of the index. -/
def document (s : Service ε) (b : Book) : Document := .make s.stemmer [b.title] [b.isbn]

/-- The documents of the writer, and the index that it has. A writer is opened if there is none. -/
def takeWriter (opened : Except String Unit) (index : Index) (s : Service ε) :
    Except WriterError (List Document × Index) :=
  match s.pending with
  | some docs => .ok (docs, index)
  | none => do
    checkWriter index s.heapSize
    opened.mapError .failed
    return ([], { index with locked := true })

/-- Adds a book, with what the index makes of it. The writer is kept even if it does not take the
document. -/
def addAs (outcome : AddOutcome) (index : Index) (s : Service ε) (b : Book) :
    Except SearchError Unit × Index × Service ε :=
  match s.takeWriter outcome.opened index with
  | .error e => (.error (.index (.write e)), index, s)
  | .ok (docs, index) =>
    match outcome.taken with
    | .error reason =>
      (.error (.index (.write (.failed reason))), index, { s with pending := some docs })
    | .ok _ => (.ok (), index, { s with pending := some (docs ++ [s.document b]) })

/-- Adds a book, to an index that fails for no reason of its own. -/
def add (index : Index) (s : Service ε) (b : Book) :
    Except SearchError Unit × Index × Service ε :=
  addAs ⟨.ok (), .ok ()⟩ index s b

/-- Shows an index to searches as it is loaded now, or as it was loaded last if that fails. What
went wrong is told afterwards. -/
def publish (merged loaded : Except String Unit) (index : Index) (s : Service ε) :
    Except SearchError Unit × Service ε :=
  let shown := match loaded with
    | .ok _ => index.segments
    | .error _ => s.snapshot.getD []
  let told := do
    merged
    loaded
  (told.mapError fun reason => .index (.commit reason), { s with snapshot := some shown })

/-- Commits the pending documents as a segment, with what the index makes of it. If they are not
kept, they stay pending. If they are, the index is shown to searches, whatever fails after that. -/
def commitAs (outcome : CommitOutcome) (index : Index) (s : Service ε) :
    Except SearchError Unit × Index × Service ε :=
  match s.pending with
  | none => (.error .noPendingWriter, index, s)
  | some docs =>
    match outcome with
    | .failed reason => (.error (.index (.commit reason)), index, { s with pending := some docs })
    | .kept merged loaded =>
      let index := { index.push docs with locked := false }
      let (result, s) := publish merged loaded index { s with pending := none }
      (result, index, s)

/-- Commits the pending documents, to an index that fails for no reason of its own. -/
def commit (index : Index) (s : Service ε) : Except SearchError Unit × Index × Service ε :=
  commitAs (.kept (.ok ()) (.ok ())) index s

/-- Closes a service. Its writer leaves the index, without the documents that are pending. -/
def close (index : Index) (s : Service ε) : Index :=
  if s.pending.isSome then { index with locked := false } else index

/-- Registers a listener for the searches to come. -/
def listen (s : Service ε) (l : ScopeListener ε) : Service ε :=
  { s with listeners := s.listeners ++ [l] }

/-! ## Looking at the catalogue -/

/-- The number of documents that searches see. -/
def documentCount (s : Service ε) : Nat :=
  match s.snapshot with
  | none => 0
  | some segments => segments.flatten.length

/-- Where the service is between adding and committing. -/
def state (s : Service ε) : ServiceState :=
  if s.pending.isSome then .writing else if s.snapshot.isSome then .committed else .noWriter

/-- The book that a document was made of. A missing text is empty. -/
def book (d : Document) : Book := ⟨(d.values .title).headD "", (d.values .isbn).headD ""⟩

/-- The hit of a match. -/
def hit (segments : List Segment) (r : Ranked) : Except SearchError Hit :=
  match (segments[r.segment]?).bind (·[r.doc]?) with
  | some d => .ok ⟨book d, r.score⟩
  | none => .error (.index (.search (Place.lookupFailure r.doc)))

/-- What a search makes of a match, with the state it leaves. -/
abbrev Each (α : Type) :=
  ComputedQuery ScoreState → List Segment → Ranked → SearchState ScoreState →
    Except SearchError α × SearchState ScoreState

/-- Makes something of each match, up to the first failure. -/
def mapMatches {α : Type} (each : Each α) (q : ComputedQuery ScoreState)
    (segments : List Segment) :
    List Ranked → SearchState ScoreState → Except SearchError (List α) × SearchState ScoreState
  | [], s => (.ok [], s)
  | r :: rest, s =>
    match each q segments r s with
    | (.error e, s) => (.error e, s)
    | (.ok a, s) =>
      match mapMatches each q segments rest s with
      | (.error e, s) => (.error e, s)
      | (.ok as, s) => (.ok (a :: as), s)

/-- Scores the matches of a plan, and makes something of the best. The first failure to score a
match fails the search, even if the match would not be among the best. -/
def runPlan {α : Type} (each : Each α) (segments : List Segment) (plan : Plan) (limit : Nat)
    (score : Variables.ScoreFunction) (start : ScoreState) :
    Except SearchError (List α) × ScoreState :=
  let q : ComputedQuery ScoreState := ⟨plan, 1.0, searchContext, score⟩
  let (best, s) := q.top limit segments ⟨start, none⟩
  let (failure, s) := s.takeFailure
  match failure with
  | some e => (.error (.scoring e), s.world)
  | none =>
    let (result, s) := mapMatches each q segments best s
    (result, s.world)

/-- Runs a search in a scope of its own, and reports what its listeners noted. -/
def collect {α : Type} (each : Each α) (s : Service ε) (query : Query) (limit : Nat) :
    Except SearchError (List α) × List ε :=
  match s.snapshot with
  | none => (.error .notCommitted, [])
  | some segments =>
    match Plan.ofQuery s.analyzer query with
    | .error e => (.error (.plan e), [])
    | .ok plan =>
      if limit = 0 then (.ok [], [])
      else
        match Variables.ofGraph s.graph with
        | .error e => (.error (.graph e), [])
        | .ok vs =>
          let entered := enterScope s.listeners segments
          match vs.scoreFunction s.score with
          | .error e => (.error (.graph e), entered ++ leaveScope s.listeners vs vs.start)
          | .ok score =>
            let (result, final) := runPlan each segments plan limit score vs.start
            (result, entered ++ leaveScope s.listeners vs final)

/-- Makes a hit of a match. -/
def eachHit : Each Hit := fun _ segments r s => (hit segments r, s)

/-- Makes a hit of a match, with the explanation of its score. -/
def eachExplained : Each (Hit × Explanation) := fun q segments r s =>
  match q.explain ((segments[r.segment]?).getD []) r.doc s with
  | (.error e, s) => (.error (.index (.search e.message)), s)
  | (.ok explanation, s) =>
    match hit segments r with
    | .error e => (.error e, s)
    | .ok h => (.ok (h, explanation), s)

/-- The best hits of a query. -/
def search (s : Service ε) (query : Query) (limit : Nat) :
    Except SearchError (List Hit) × List ε :=
  collect eachHit s query limit

/-- The best hits of a query, with the explanations of their scores. -/
def explainTop (s : Service ε) (query : Query) (limit : Nat) :
    Except SearchError (List (Hit × Explanation)) × List ε :=
  collect eachExplained s query limit

end Service

end Catalogue
