import Catalogue.Proofs.Score.Memo
import Catalogue.Proofs.Search.Reference

/-! # Scoring all matches

A scan announces the segment of a match before its first score and each document before its own.
So every score is computed where the search should stand, and is what direct evaluation gives
there; the first failure is the one that is kept. -/

namespace Catalogue

/-- The score of a match: zero if it fails. -/
def weighed (weight : Float32) : Except ScoreError Float32 → Float32
  | .ok x => x * weight
  | .error _ => 0.0

def Found.ranked (weight : Float32) (p : Found × Except ScoreError Float32) : Ranked :=
  ⟨p.1.number, p.1.doc, weighed weight p.2⟩

/-- A scorer whose announcements have been heard: none of its segment while it is pending, and
then that of its segment and that of the last document, if any. -/
structure Tracks (g : Graph) (c : ComputedScorer) (s : SearchState ScoreState) : Prop where
  keeps : s.world.Keeps g.direct
  stage : c.stage = .pending ∧ c.lastDoc = none ∨
    c.stage = .entered ∧ s.world.place.segment = some c.segment
  last : ∀ doc, c.lastDoc = some doc → s.world.place.doc = some doc

/-- What a scan does: every match has the result of direct evaluation in its place, and the first
failure is kept unless there was one before. -/
structure Scans (g : Graph) (entry : String) (found : List Found)
    (results : List (Found × Except ScoreError Float32)) (s s' : SearchState ScoreState) :
    Prop where
  matched : results.map Prod.fst = found
  evaluated : ∀ p ∈ results, g.scoreAt? p.1.place entry = some p.2
  failure : s'.failure = s.failure.or (firstFailure? results)
  keeps : s'.world.Keeps g.direct

variable {g : Graph} {entry : String}

theorem Scans.nil {s : SearchState ScoreState} (h : s.world.Keeps g.direct) :
    Scans g entry [] [] s s :=
  ⟨rfl, fun _ hp => absurd hp List.not_mem_nil, (Option.or_none).symm, h⟩

theorem Scans.single {m : Found} {r : Except ScoreError Float32} {s s' : SearchState ScoreState}
    (hvalue : g.scoreAt? m.place entry = some r)
    (hfailure : s'.failure = s.failure.or (errorOf? r)) (hkeeps : s'.world.Keeps g.direct) :
    Scans g entry [m] [(m, r)] s s' := by
  refine ⟨rfl, fun p hp => ?_, ?_, hkeeps⟩
  · cases List.mem_singleton.mp hp
    exact hvalue
  · rw [hfailure]
    cases r <;> rfl

theorem Scans.append {found others : List Found}
    {results rest : List (Found × Except ScoreError Float32)} {s t u : SearchState ScoreState}
    (h : Scans g entry found results s t) (h' : Scans g entry others rest t u) :
    Scans g entry (found ++ others) (results ++ rest) s u := by
  refine ⟨by rw [List.map_append, h.matched, h'.matched], fun p hp => ?_, ?_, h'.keeps⟩
  · rcases List.mem_append.mp hp with hp | hp
    · exact h.evaluated p hp
    · exact h'.evaluated p hp
  · rw [h'.failure, h.failure, firstFailure?, firstFailure?, firstFailure?, List.findSome?_append,
      Option.or_assoc]

/-! ## The score of the current match -/

section

variable {q : ComputedQuery ScoreState} {c : ComputedScorer} {s : SearchState ScoreState}

theorem Tracks.enter (h : Tracks g c s) (hcontext : q.context = searchContext) :
    ∃ t, q.enter c s = ({ c with stage := .entered }, t) ∧ t.failure = s.failure ∧
      Tracks g { c with stage := .entered } t := by
  unfold ComputedQuery.enter
  rcases h.stage with ⟨hstage, hlast⟩ | ⟨hstage, hsegment⟩
  · rw [hstage, hcontext]
    refine ⟨_, rfl, rfl, h.keeps.onSegment c.segment, .inr ⟨rfl, rfl⟩, fun doc hdoc => ?_⟩
    cases hlast.symm.trans hdoc
  · have hc : { c with stage := .entered } = c := by
      rw [← hstage]
    rw [hstage, hc]
    exact ⟨s, rfl, rfl, h⟩

theorem Tracks.moveTo (h : Tracks g c s) (hcontext : q.context = searchContext)
    (hstage : c.stage = .entered) :
    ∃ t, q.moveTo c s = ({ c with lastDoc := some c.cursor.doc }, t) ∧ t.failure = s.failure ∧
      t.world.place = ⟨some c.segment, some c.cursor.doc⟩ ∧
      Tracks g { c with lastDoc := some c.cursor.doc } t := by
  have hsegment : s.world.place.segment = some c.segment := by
    rcases h.stage with ⟨hpending, _⟩ | ⟨_, hsegment⟩
    · cases hstage.symm.trans hpending
    · exact hsegment
  unfold ComputedQuery.moveTo
  by_cases hlast : c.lastDoc = some c.cursor.doc
  · have hc : { c with lastDoc := some c.cursor.doc } = c := by
      rw [← hlast]
    have hplace : s.world.place = ⟨some c.segment, some c.cursor.doc⟩ := by
      rw [← hsegment, ← h.last _ hlast]
    rw [hc]
    exact ⟨s, if_pos hlast, rfl, hplace, h⟩
  · have hplace : (q.context.onDoc c.cursor.doc s.world).place =
        ⟨some c.segment, some c.cursor.doc⟩ := by
      rw [hcontext, ← hsegment]
      rfl
    refine ⟨_, if_neg hlast, rfl, hplace, ?_, .inr ⟨hstage, ?_⟩, fun doc hdoc => ?_⟩
    · rw [hcontext]
      exact h.keeps.onDoc c.cursor.doc
    · rw [hplace]
    · rw [hplace]
      exact hdoc

theorem compute_answers (hs : s.world.Keeps g.direct)
    (hscore : Answers g.direct q.score fun p r => g.scoreAt? p entry = some r) :
    ∃ r t, q.compute s = (r, t) ∧ g.scoreAt? s.world.place entry = some r ∧
      t.failure = s.failure ∧ Steady g.direct s.world t.world := by
  obtain ⟨hr, hsteady⟩ := hscore s.world hs
  exact ⟨_, _, rfl, hr, rfl, hsteady⟩

/-- The score of the current match is that of direct evaluation where the match is. -/
theorem Tracks.scoreCurrent (h : Tracks g c s) (hcontext : q.context = searchContext)
    (hscore : Answers g.direct q.score fun p r => g.scoreAt? p entry = some r) {m : Found}
    (hdoc : m.doc = c.cursor.doc) (hsegment : m.segment = c.segment) :
    ∃ r t, q.scoreCurrent c s = (weighed c.weight r,
        { c with stage := .entered, lastDoc := some c.cursor.doc }, t) ∧
      Tracks g { c with stage := .entered, lastDoc := some c.cursor.doc } t ∧
      Scans g entry [m] [(m, r)] s t := by
  obtain ⟨t₁, hentered, hfailure₁, htracks₁⟩ := h.enter (q := q) hcontext
  obtain ⟨t₂, hmoved, hfailure₂, hplace, htracks₂⟩ := htracks₁.moveTo hcontext rfl
  obtain ⟨r, t₃, hcomputed, hr, hfailure₃, hsteady⟩ := compute_answers htracks₂.keeps hscore
  have hvalue : g.scoreAt? m.place entry = some r := by
    rw [Found.place, hdoc, hsegment, ← hplace]
    exact hr
  have hfailure : t₃.failure = s.failure := (hfailure₃.trans hfailure₂).trans hfailure₁
  have htracks : Tracks g { c with stage := .entered, lastDoc := some c.cursor.doc } t₃ :=
    ⟨hsteady.keeps, hsteady.place ▸ htracks₂.stage, hsteady.place ▸ htracks₂.last⟩
  unfold ComputedQuery.scoreCurrent
  rw [hentered]
  simp only [hmoved, hcomputed]
  cases r with
  | ok x =>
      refine ⟨.ok x, t₃, rfl, htracks, .single hvalue ?_ hsteady.keeps⟩
      rw [hfailure]
      exact (Option.or_none).symm
  | error e =>
      refine ⟨.error e, t₃.record e, rfl, ⟨htracks.keeps, htracks.stage, htracks.last⟩,
        .single hvalue ?_ hsteady.keeps⟩
      exact congrArg (Option.or · (some e)) hfailure

/-- Scoring the matches of a segment scans them. -/
theorem Tracks.scoreRest (hcontext : q.context = searchContext)
    (hscore : Answers g.direct q.score fun p r => g.scoreAt? p entry = some r) {number : Nat}
    {found : List Found} (h : Tracks g c s) (hdocs : found.map Found.doc = c.cursor.docs)
    (hfound : ∀ m ∈ found, m.number = number ∧ m.segment = c.segment) :
    ∃ results, Scans g entry found results s (q.scoreRest found.length c s).2 ∧
      (q.scoreRest found.length c s).1.map (fun p => (⟨number, p.1, p.2⟩ : Ranked)) =
        results.map (Found.ranked c.weight) := by
  induction found generalizing c s with
  | nil => exact ⟨[], .nil h.keeps, rfl⟩
  | cons m rest ih =>
      obtain ⟨hnumber, hsegment⟩ := hfound m List.mem_cons_self
      have hdoc : c.cursor.doc = m.doc := Cursor.doc_eq_head hdocs.symm
      obtain ⟨r, t, hcurrent, htracks, hscans⟩ :=
        h.scoreCurrent hcontext hscore hdoc.symm hsegment
      have hadvanced : rest.map Found.doc = c.cursor.advance.docs := by
        rw [Cursor.docs_advance, ← hdocs]
        rfl
      obtain ⟨results, hrest, hscores⟩ := ih
        (c := { c with stage := .entered, lastDoc := some c.cursor.doc }.advance) (s := t)
        ⟨htracks.keeps, htracks.stage, htracks.last⟩ hadvanced
        fun n hn => hfound n (List.mem_cons_of_mem m hn)
      refine ⟨(m, r) :: results, ?_, ?_⟩
      · rw [List.length_cons, ComputedQuery.scoreRest, hcurrent]
        exact hscans.append hrest
      · rw [List.length_cons, ComputedQuery.scoreRest, hcurrent, List.map_cons, List.map_cons,
          hscores, hdoc, ← hnumber]
        rfl

/-- Scoring a segment scans the documents that the query means, if the plan is its plan. -/
theorem scoreSegment_scans (hcontext : q.context = searchContext)
    (hscore : Answers g.direct q.score fun p r => g.scoreAt? p entry = some r) {a : Analyzer}
    {query : Query} (hplan : Plan.ofQuery a query = .ok q.plan) {segment : Segment}
    (hsize : segment.length ≤ noMoreDocs) (number : Nat) (hs : s.world.Keeps g.direct) :
    ∃ results, Scans g entry (query.foundIn a number segment) results s
        (q.scoreSegment segment s).2 ∧
      (q.scoreSegment segment s).1.map (fun p => (⟨number, p.1, p.2⟩ : Ranked)) =
        results.map (Found.ranked (q.weight 1.0)) := by
  have hfinds := q.plan.cursor_finds hsize 1.0
  have hdocs : (query.foundIn a number segment).map Found.doc =
      (q.plan.cursor segment 1.0).docs := by
    refine hfinds.docs_unique (foundIn_increasing number segment) fun doc => ?_
    rw [List.mem_map]
    simp only [holds_ofQuery _ query hplan]
    constructor
    · rintro ⟨m, hm, rfl⟩
      obtain ⟨_, hsegment, hd, hholds⟩ := mem_foundIn.mp hm
      exact ⟨m.document, hsegment ▸ hd, hholds⟩
    · rintro ⟨d, hd, hholds⟩
      exact ⟨⟨number, doc, segment, d⟩, mem_foundIn.mpr ⟨rfl, rfl, hd, hholds⟩, rfl⟩
  have hlength : (q.plan.cursor segment 1.0).entries.length =
      (query.foundIn a number segment).length := by
    rw [← List.length_map Found.doc, hdocs, Cursor.docs, List.length_map]
  have htracks : Tracks g (q.scorer segment 1.0) s :=
    ⟨hs, .inl ⟨rfl, rfl⟩, fun doc hdoc => by cases hdoc⟩
  have hfound : ∀ m ∈ query.foundIn a number segment,
      m.number = number ∧ m.segment = (q.scorer segment 1.0).segment :=
    fun m hm => ⟨(mem_foundIn.mp hm).1, (mem_foundIn.mp hm).2.1⟩
  obtain ⟨results, hscans, hscores⟩ := htracks.scoreRest hcontext hscore hdocs hfound
  rw [← hlength] at hscans hscores
  exact ⟨results, hscans, hscores⟩

/-- Scoring segments scans the documents that the query means, in the order of the index. -/
theorem scoreFrom_scans (hcontext : q.context = searchContext)
    (hscore : Answers g.direct q.score fun p r => g.scoreAt? p entry = some r) {a : Analyzer}
    {query : Query} (hplan : Plan.ofQuery a query = .ok q.plan) {segments : List Segment}
    (hsizes : ∀ segment ∈ segments, segment.length ≤ noMoreDocs) (number : Nat)
    (hs : s.world.Keeps g.direct) :
    ∃ results, Scans g entry (query.foundFrom a number segments) results s
        (q.scoreFrom number segments s).2 ∧
      (q.scoreFrom number segments s).1 = results.map (Found.ranked (q.weight 1.0)) := by
  induction segments generalizing number s with
  | nil => exact ⟨[], .nil hs, rfl⟩
  | cons segment rest ih =>
      obtain ⟨results, hscans, hscores⟩ := scoreSegment_scans hcontext hscore hplan
        (hsizes segment List.mem_cons_self) number hs
      obtain ⟨others, hscans', hscores'⟩ := ih
        (fun segment hsegment => hsizes segment (List.mem_cons_of_mem _ hsegment)) (number + 1)
        hscans.keeps
      refine ⟨results ++ others, hscans.append hscans', ?_⟩
      rw [List.map_append, ← hscores, ← hscores']
      rfl

end

end Catalogue
