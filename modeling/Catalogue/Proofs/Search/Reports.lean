import Catalogue.Proofs.Search.Scan

/-! # Reports on scores

A scorer of one segment is advanced, sent ahead and asked for scores in any order. What it makes its
context hear and its score function compute is noted in a log, which disturbs nothing. Each score
has a report, and the reports on a run account for all that the run does. -/

namespace Catalogue

/-- What a scorer lets its context hear, and what its score function gave. -/
inductive Signal where
  | segment (s : Segment)
  | doc (number : Nat)
  | evaluated (result : Except ScoreError Float32)

inductive ScorerCall where
  | advance
  | seek (target : Nat)
  | score

/-- One score, seen from outside: the document the scorer stood on, what was announced and computed
for it, the failure that was recorded, and the score itself. -/
structure Report where
  doc : Nat
  signals : List Signal
  failure : Option ScoreError
  score : Float32

/-- The documents that a scorer stands on when it is asked for scores. Behind the last match that is
the number no document has. -/
def Cursor.scoredDocs : Cursor → List ScorerCall → List Nat
  | _, [] => []
  | c, .advance :: rest => c.advance.scoredDocs rest
  | c, .seek target :: rest => (c.seek target).scoredDocs rest
  | c, .score :: rest => c.doc :: c.scoredDocs rest

namespace ComputedQuery

variable {σ : Type}

def perform (q : ComputedQuery σ) :
    List ScorerCall → ComputedScorer → SearchState σ → List Float32 × SearchState σ
  | [], _, s => ([], s)
  | .advance :: rest, c, s => q.perform rest c.advance s
  | .seek target :: rest, c, s => q.perform rest (c.seek target) s
  | .score :: rest, c, s =>
    let (x, c, s) := q.scoreCurrent c s
    let (xs, s) := q.perform rest c s
    (x :: xs, s)

/-- The same query with a log: every announcement to its context is noted before the context hears
it, and every result of its score function. -/
def observed (q : ComputedQuery σ) : ComputedQuery (σ × List Signal) where
  plan := q.plan
  boost := q.boost
  context := .leaf {
    onSegment := fun segment w =>
      let (result, world) := q.context.onSegment segment w.1
      (result, (world, w.2 ++ [.segment segment]))
    onDoc := fun doc w => (q.context.onDoc doc w.1, w.2 ++ [.doc doc]) }
  score := ExceptT.mk fun w =>
    let (result, world) := (ExceptT.run q.score).run w.1
    (result, (world, w.2 ++ [.evaluated result]))

/-- Announces a document, unless it was the last one announced, and asks the score function. -/
def visit (q : ComputedQuery σ) (last : Option Nat) (doc : Nat) (world : σ) :
    Except ScoreError Float32 × σ :=
  (ExceptT.run q.score).run (if last = some doc then world else q.context.onDoc doc world)

/-- Scores the current document with an empty log and no failure yet, and reports on it. -/
def report (q : ComputedQuery σ) (c : ComputedScorer) (world : σ) : Report × ComputedScorer × σ :=
  let (x, next, s) := q.observed.scoreCurrent c ⟨(world, []), none⟩
  (⟨c.cursor.doc, s.world.2, s.failure, x⟩, next, s.world.1)

def reports (q : ComputedQuery σ) : List ScorerCall → ComputedScorer → σ → List Report × σ
  | [], _, world => ([], world)
  | .advance :: rest, c, world => q.reports rest c.advance world
  | .seek target :: rest, c, world => q.reports rest (c.seek target) world
  | .score :: rest, c, world =>
    let (r, c, world) := q.report c world
    let (others, world) := q.reports rest c world
    (r :: others, world)

end ComputedQuery

def recorded? (reports : List Report) : Option ScoreError := reports.findSome? Report.failure

/-- The reports on scores in a segment that cannot be entered: the first one announces the segment
and records the failure, and none does anything else. -/
def refusedReports (segment : Segment) (e : ScoreError) : List Nat → List Report
  | [] => []
  | doc :: rest => ⟨doc, [.segment segment], some e, 0.0⟩ :: rest.map fun d => ⟨d, [], none, 0.0⟩

/-! ## One score -/

section

variable {σ : Type} (q : ComputedQuery σ) {c : ComputedScorer}

/-- What the score of a document announces of it, when the last one announced is known. -/
def docSignals (last : Option Nat) (doc : Nat) : List Signal :=
  if last = some doc then [] else [.doc doc]

theorem scoreCurrent_failed (h : c.stage = .failed) (s : SearchState σ) :
    q.scoreCurrent c s = (0.0, c, s) := by
  simp only [ComputedQuery.scoreCurrent, ComputedQuery.enter, h]

theorem scoreCurrent_refused (h : c.stage = .pending) {s : SearchState σ} {e : ScoreError}
    (he : (q.context.onSegment c.segment s.world).1 = .error e) :
    q.scoreCurrent c s = (0.0, { c with stage := .failed },
      ⟨(q.context.onSegment c.segment s.world).2, s.failure.or (some e)⟩) := by
  rcases hr : q.context.onSegment c.segment s.world with ⟨r, world⟩
  rw [hr] at he
  subst he
  simp only [ComputedQuery.scoreCurrent, ComputedQuery.enter, h, hr]
  rfl

/-- The first score in a segment that can be entered is as if it had been entered already. -/
theorem scoreCurrent_first (h : c.stage = .pending) {s : SearchState σ}
    (hok : (q.context.onSegment c.segment s.world).1 = .ok ()) :
    q.scoreCurrent c s = q.scoreCurrent { c with stage := .entered }
      { s with world := (q.context.onSegment c.segment s.world).2 } := by
  rcases hr : q.context.onSegment c.segment s.world with ⟨r, world⟩
  rw [hr] at hok
  subst hok
  simp only [ComputedQuery.scoreCurrent, ComputedQuery.enter, h, hr]

/-- In an entered segment the score function is asked at the document. -/
theorem scoreCurrent_entered (h : c.stage = .entered) (s : SearchState σ) :
    q.scoreCurrent c s =
      let result := q.visit c.lastDoc c.cursor.doc s.world
      (weighed c.weight result.1, { c with lastDoc := some c.cursor.doc },
        ⟨result.2, s.failure.or (errorOf? result.1)⟩) := by
  have hmoved : q.moveTo c s = ({ c with lastDoc := some c.cursor.doc },
      { s with world := if c.lastDoc = some c.cursor.doc then s.world
        else q.context.onDoc c.cursor.doc s.world }) := by
    unfold ComputedQuery.moveTo
    by_cases hlast : c.lastDoc = some c.cursor.doc
    · simp only [hlast, if_true]
      rw [← hlast]
    · simp only [hlast, if_false]
  have hentered : q.enter c s = (c, s) := by simp only [ComputedQuery.enter, h]
  simp only [ComputedQuery.scoreCurrent, hentered, h, hmoved, ComputedQuery.compute,
    ComputedQuery.visit]
  rcases (ExceptT.run q.score).run _ with ⟨_ | x, world⟩
  · rfl
  · simp only [weighed, errorOf?, Option.or_none]

/-- The log grows by what is announced of the document and by what the score function gave. -/
theorem visit_observed (last : Option Nat) (doc : Nat) (world : σ) (log : List Signal) :
    q.observed.visit last doc (world, log) =
      let result := q.visit last doc world
      (result.1, (result.2, log ++ (docSignals last doc ++ [.evaluated result.1]))) := by
  by_cases hlast : last = some doc
  · simp only [ComputedQuery.visit, docSignals, hlast, if_true]
    rfl
  · simp only [ComputedQuery.visit, docSignals, hlast, if_false, ← List.append_assoc]
    rfl

/-! ## One report -/

theorem report_failed (h : c.stage = .failed) (world : σ) :
    q.report c world = (⟨c.cursor.doc, [], none, 0.0⟩, c, world) := by
  simp only [ComputedQuery.report, scoreCurrent_failed q.observed h]

theorem report_refused (h : c.stage = .pending) {world : σ} {e : ScoreError}
    (he : (q.context.onSegment c.segment world).1 = .error e) :
    q.report c world = (⟨c.cursor.doc, [.segment c.segment], some e, 0.0⟩,
      { c with stage := .failed }, (q.context.onSegment c.segment world).2) := by
  have hscore := scoreCurrent_refused q.observed h (s := ⟨(world, []), none⟩) he
  simp only [ComputedQuery.report, hscore]
  rfl

theorem report_entered (h : c.stage = .entered) (world : σ) :
    q.report c world =
      let result := q.visit c.lastDoc c.cursor.doc world
      (⟨c.cursor.doc, docSignals c.lastDoc c.cursor.doc ++ [.evaluated result.1],
        errorOf? result.1, weighed c.weight result.1⟩,
        { c with lastDoc := some c.cursor.doc }, result.2) := by
  simp only [ComputedQuery.report, scoreCurrent_entered q.observed h, visit_observed,
    List.nil_append, Option.none_or]

/-- Where the segment can be entered, the first score is observed as one in an entered segment with
the segment in the log already. -/
theorem scoreCurrent_observed_first (h : c.stage = .pending) {world : σ}
    (hok : (q.context.onSegment c.segment world).1 = .ok ()) (log : List Signal)
    (failure : Option ScoreError) :
    q.observed.scoreCurrent c ⟨(world, log), failure⟩ =
      q.observed.scoreCurrent { c with stage := .entered }
        ⟨((q.context.onSegment c.segment world).2, log ++ [.segment c.segment]), failure⟩ :=
  scoreCurrent_first q.observed h hok

theorem report_first (h : c.stage = .pending) {world : σ}
    (hok : (q.context.onSegment c.segment world).1 = .ok ()) :
    q.report c world =
      let (r, next, world) := q.report { c with stage := .entered }
        (q.context.onSegment c.segment world).2
      ({ r with signals := .segment c.segment :: r.signals }, next, world) := by
  have hentered := report_entered q (c := { c with stage := .entered }) rfl
    (q.context.onSegment c.segment world).2
  rw [hentered, ComputedQuery.report, scoreCurrent_observed_first q h hok,
    scoreCurrent_entered q.observed rfl, visit_observed]
  rfl

/-- A score is what its report says, and changes the state as it says. -/
theorem scoreCurrent_eq_report (c : ComputedScorer) (s : SearchState σ) :
    q.scoreCurrent c s = ((q.report c s.world).1.score, (q.report c s.world).2.1,
      ⟨(q.report c s.world).2.2, s.failure.or (q.report c s.world).1.failure⟩) := by
  cases h : c.stage with
  | failed =>
      rw [scoreCurrent_failed q h, report_failed q h]
      simp only [Option.or_none]
  | entered => rw [scoreCurrent_entered q h, report_entered q h]
  | pending =>
      cases hr : (q.context.onSegment c.segment s.world).1 with
      | error e => rw [scoreCurrent_refused q h hr, report_refused q h hr]
      | ok _ =>
          rw [scoreCurrent_first q h hr, scoreCurrent_entered q rfl, report_first q h hr,
            report_entered q rfl]

/-- The log grows by the signals of the report, and the rest is as without a log. -/
theorem scoreCurrent_observed (c : ComputedScorer) (world : σ) (log : List Signal)
    (failure : Option ScoreError) :
    q.observed.scoreCurrent c ⟨(world, log), failure⟩ =
      ((q.report c world).1.score, (q.report c world).2.1,
        ⟨((q.report c world).2.2, log ++ (q.report c world).1.signals),
          failure.or (q.report c world).1.failure⟩) := by
  cases h : c.stage with
  | failed =>
      rw [scoreCurrent_failed q.observed h, report_failed q h]
      simp only [Option.or_none, List.append_nil]
  | entered => rw [scoreCurrent_entered q.observed h, visit_observed, report_entered q h]
  | pending =>
      cases hr : (q.context.onSegment c.segment world).1 with
      | error e =>
          have hobserved := scoreCurrent_refused q.observed h (s := ⟨(world, log), failure⟩) hr
          rw [hobserved, report_refused q h hr]
          rfl
      | ok _ =>
          rw [scoreCurrent_observed_first q h hr, scoreCurrent_entered q.observed rfl,
            visit_observed, report_first q h hr, report_entered q rfl]
          simp only [List.append_assoc, List.cons_append, List.nil_append]

/-! ## A run of calls -/

theorem perform_eq_reports (calls : List ScorerCall) (c : ComputedScorer) (s : SearchState σ) :
    q.perform calls c s = ((q.reports calls c s.world).1.map Report.score,
      ⟨(q.reports calls c s.world).2, s.failure.or (recorded? (q.reports calls c s.world).1)⟩) := by
  induction calls generalizing c s with
  | nil => simp [ComputedQuery.perform, ComputedQuery.reports, recorded?]
  | cons call rest ih =>
      cases call with
      | advance => exact ih c.advance s
      | seek target => exact ih (c.seek target) s
      | score =>
          simp only [ComputedQuery.perform, ComputedQuery.reports, scoreCurrent_eq_report, ih,
            List.map_cons, recorded?, List.findSome?_cons, Option.or_assoc]
          cases (q.report c s.world).1.failure <;> simp

/-- The log of a whole run is made of the signals of its reports. -/
theorem perform_observed (calls : List ScorerCall) (c : ComputedScorer) (world : σ)
    (log : List Signal) (failure : Option ScoreError) :
    (q.observed.perform calls c ⟨(world, log), failure⟩).2.world =
      ((q.reports calls c world).2,
        log ++ (q.reports calls c world).1.flatMap Report.signals) := by
  induction calls generalizing c world log failure with
  | nil => simp [ComputedQuery.perform, ComputedQuery.reports]
  | cons call rest ih =>
      cases call with
      | advance => exact ih c.advance world log failure
      | seek target => exact ih (c.seek target) world log failure
      | score =>
          simp only [ComputedQuery.perform, ComputedQuery.reports, scoreCurrent_observed, ih,
            List.flatMap_cons, List.append_assoc]

/-- Scoring leaves the scorer where it stands. -/
theorem report_cursor (c : ComputedScorer) (world : σ) :
    (q.report c world).2.1.cursor = c.cursor := by
  cases h : c.stage with
  | failed => rw [report_failed q h]
  | entered => rw [report_entered q h]
  | pending =>
      cases hr : (q.context.onSegment c.segment world).1 with
      | error e => rw [report_refused q h hr]
      | ok _ => rw [report_first q h hr, report_entered q rfl]

/-- There is one report for each score that is asked for, on the document the scorer stands on. -/
theorem reports_docs (calls : List ScorerCall) (c : ComputedScorer) (world : σ) :
    (q.reports calls c world).1.map Report.doc = c.cursor.scoredDocs calls := by
  induction calls generalizing c world with
  | nil => rfl
  | cons call rest ih =>
      cases call with
      | advance => exact ih c.advance world
      | seek target => exact ih (c.seek target) world
      | score =>
          have hrest := ih (q.report c world).2.1 (q.report c world).2.2
          rw [report_cursor] at hrest
          simp only [ComputedQuery.reports, List.map_cons, hrest, Cursor.scoredDocs]
          rfl

theorem reports_failed (h : c.stage = .failed) (calls : List ScorerCall) (world : σ) :
    (q.reports calls c world).1 = (c.cursor.scoredDocs calls).map fun d => ⟨d, [], none, 0.0⟩ := by
  induction calls generalizing c with
  | nil => rfl
  | cons call rest ih =>
      cases call with
      | advance => exact ih (c := c.advance) h
      | seek target => exact ih (c := c.seek target) h
      | score =>
          simp only [ComputedQuery.reports, report_failed q h, ih h, Cursor.scoredDocs,
            List.map_cons]

/-- A segment that cannot be entered is announced at the first score, and nothing after it. -/
theorem reports_refused (h : c.stage = .pending) {world : σ} {e : ScoreError}
    (he : (q.context.onSegment c.segment world).1 = .error e) (calls : List ScorerCall) :
    (q.reports calls c world).1 = refusedReports c.segment e (c.cursor.scoredDocs calls) := by
  induction calls generalizing c with
  | nil => rfl
  | cons call rest ih =>
      cases call with
      | advance => exact ih (c := c.advance) h he
      | seek target => exact ih (c := c.seek target) h he
      | score =>
          have hrest := reports_failed q (c := { c with stage := .failed }) rfl rest
            (q.context.onSegment c.segment world).2
          simp only [ComputedQuery.reports, report_refused q h he, hrest, Cursor.scoredDocs,
            refusedReports]

/-- Reports on scores in an entered segment, where the last document announced is known. -/
inductive Chained (weight : Float32) : Option Nat → List Report → Prop where
  | nil {last} : Chained weight last []
  | cons {last doc result rest} : Chained weight (some doc) rest →
      Chained weight last (⟨doc, docSignals last doc ++ [.evaluated result], errorOf? result,
        weighed weight result⟩ :: rest)

theorem reports_chained (h : c.stage = .entered) (calls : List ScorerCall) (world : σ) :
    Chained c.weight c.lastDoc (q.reports calls c world).1 := by
  induction calls generalizing c world with
  | nil => exact .nil
  | cons call rest ih =>
      cases call with
      | advance => exact ih (c := c.advance) h world
      | seek target => exact ih (c := c.seek target) h world
      | score =>
          simp only [ComputedQuery.reports, report_entered q h]
          exact .cons (ih (c := { c with lastDoc := some c.cursor.doc }) h _)

/-- The first score announces the segment. What follows is as in an entered segment. -/
theorem reports_entered (h : c.stage = .pending) {world : σ}
    (hok : (q.context.onSegment c.segment world).1 = .ok ()) (calls : List ScorerCall) :
    (q.reports calls c world).1 = [] ∨ ∃ first rest, Chained c.weight c.lastDoc (first :: rest) ∧
      (q.reports calls c world).1 =
        { first with signals := .segment c.segment :: first.signals } :: rest := by
  induction calls generalizing c with
  | nil => exact .inl rfl
  | cons call rest ih =>
      cases call with
      | advance => exact ih (c := c.advance) h hok
      | seek target => exact ih (c := c.seek target) h hok
      | score =>
          have hchained := reports_chained q (c := { c with stage := .entered }) rfl
            (.score :: rest) (q.context.onSegment c.segment world).2
          simp only [ComputedQuery.reports] at hchained
          refine .inr ⟨_, _, hchained, ?_⟩
          simp only [ComputedQuery.reports, report_first q h hok]

end

end Catalogue
