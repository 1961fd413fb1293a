import Catalogue.Proofs.Plan.Refusal
import Catalogue.Proofs.Search.Results

/-! # A search with explanations goes as the search without them

An explanation is made after the matches were collected, hit by hit in the order of the ranking: a
fresh cursor is moved to the document, its segment and the document are announced again, and the
score is computed anew. Direct evaluation gives the score both times. So explaining a hit does not
fail, and explains the score that the hit has. -/

namespace Catalogue

/-- An explanation of a score: the score is its value, and the computed score times the product of
a boost and a norm. -/
structure Explanation.Explains (e : Explanation) (score : Float32) : Prop where
  value : e.value = score
  product : ∃ computed boost norm, score = computed * (boost * norm) ∧
    e.details = [.mk computed "computed score" [], .mk boost "boost" [], .mk norm "queryNorm" []]

/-- A search with explanations goes as one without them: it has the same hits or the same failure,
and an explanation of the score of every hit. -/
structure ExplainedAs (explained : Except SearchError (List (Hit × Explanation)))
    (plain : Except SearchError (List Hit)) : Prop where
  hits : explained.map (List.map Prod.fst) = plain
  explains : ∀ hits, explained = .ok hits → ∀ p ∈ hits, p.2.Explains p.1.score

theorem ExplainedAs.error (e : SearchError) : ExplainedAs (.error e) (.error e) :=
  ⟨rfl, fun _ h => by cases h⟩

theorem ExplainedAs.nil : ExplainedAs (.ok []) (.ok []) := by
  refine ⟨rfl, fun hits h p hp => ?_⟩
  cases h
  cases hp

/-! ## Moving a fresh cursor to a match -/

section

variable {c : Cursor} {doc : Nat}

theorem Cursor.Ordered.scoreAt_eq_ok (h : c.Ordered) (hdoc : doc ∈ c.docs) :
    c.scoreAt doc = .ok (c.seek doc).score := by
  have hmatches : (decide (c.doc ≤ doc) && decide ((c.seek doc).doc = doc)) = true := by
    rw [Bool.and_eq_true, decide_eq_true_iff, decide_eq_true_iff]
    exact ⟨h.doc_le hdoc, h.doc_seek_eq_iff.mpr (.inl hdoc)⟩
  exact if_pos hmatches

end

/-! ## Explaining a match -/

def ComputedQuery.explanation {σ : Type} (q : ComputedQuery σ) (x : Float32) : Explanation :=
  .mk (x * q.weight 1.0) "ComputedScore, product of:"
    [.mk x "computed score" [], .mk q.boost "boost" [], .mk queryNorm "queryNorm" []]

theorem ComputedQuery.explanation_explains {σ : Type} {q : ComputedQuery σ} (hboost : q.boost = 1.0)
    (x : Float32) : (q.explanation x).Explains (x * searchWeight) := by
  have hvalue : x * q.weight 1.0 = x * searchWeight := by
    rw [weight, hboost]
    rfl
  have hproduct : searchWeight = q.boost * queryNorm := by
    rw [hboost]
    rfl
  exact ⟨hvalue, x, q.boost, queryNorm, congrArg (x * ·) hproduct, rfl⟩

section

variable {g : Graph} {entry : String} {a : Analyzer} {query : Query} {segments : List Segment}
  {q : ComputedQuery ScoreState} {s : SearchState ScoreState}

/-- A match of a query is a match of its plan in the segment of the match. -/
theorem mem_docs_of_found (hplan : Plan.ofQuery a query = .ok q.plan)
    (hsizes : ∀ segment ∈ segments, segment.length ≤ noMoreDocs) {m : Found}
    (hm : m ∈ query.foundFrom a 0 segments) :
    (q.plan.cursor m.segment 1.0).Ordered ∧ m.doc ∈ (q.plan.cursor m.segment 1.0).docs := by
  obtain ⟨_, hsegment, hdoc, hholds⟩ := mem_foundFrom.mp hm
  have hsize := hsizes m.segment (List.mem_of_getElem? hsegment)
  have hfinds := q.plan.cursor_finds hsize 1.0
  rw [← holds_ofQuery _ query hplan] at hholds
  exact ⟨hfinds.ordered hsize, (hfinds.exact m.doc).mpr ⟨m.document, hdoc, hholds⟩⟩

/-- A match is explained by what direct evaluation gives for it, whatever was announced and kept
before. -/
theorem explain_found (hplan : Plan.ofQuery a query = .ok q.plan)
    (hcontext : q.context = searchContext)
    (hscore : Answers g.direct q.score fun p r => g.scoreAt? p entry = some r)
    (hsizes : ∀ segment ∈ segments, segment.length ≤ noMoreDocs) {m : Found}
    (hm : m ∈ query.foundFrom a 0 segments) {x : Float32}
    (hx : g.scoreAt? m.place entry = some (.ok x)) (hs : s.world.Keeps g.direct) :
    ∃ t, q.explain m.segment m.doc s = (.ok (q.explanation x), t) ∧ t.world.Keeps g.direct := by
  obtain ⟨hordered, hdoc⟩ := mem_docs_of_found hplan hsizes hm
  -- Both announcements are made again, so that nothing kept from before is read.
  obtain ⟨world, hentered, hsegment, hkeeps⟩ : ∃ world,
      searchContext.onSegment m.segment s.world = (.ok (), world) ∧
        world.place.segment = some m.segment ∧ world.Keeps g.direct :=
    ⟨_, rfl, rfl, hs.onSegment m.segment⟩
  have hplace : (searchContext.onDoc m.doc world).place = m.place := by
    rw [Found.place, ← hsegment]
    rfl
  obtain ⟨r, t, hcomputed, hr, _, hsteady⟩ := compute_answers (q := q)
    (s := ⟨searchContext.onDoc m.doc world, s.failure⟩) (hkeeps.onDoc m.doc) hscore
  have hresult : r = .ok x := Option.some.inj (hr.symm.trans (hplace ▸ hx))
  refine ⟨t, ?_, hsteady.keeps⟩
  unfold ComputedQuery.explain
  rw [hordered.scoreAt_eq_ok hdoc, hcontext]
  simp only [hentered, hcomputed, hresult]
  rfl

/-- Explaining ranked matches gives the hits of the ranking, each with its score explained. -/
theorem mapMatches_eachExplained (hplan : Plan.ofQuery a query = .ok q.plan)
    (hcontext : q.context = searchContext) (hboost : q.boost = 1.0)
    (hscore : Answers g.direct q.score fun p r => g.scoreAt? p entry = some r)
    (hsizes : ∀ segment ∈ segments, segment.length ≤ noMoreDocs) {ranked : List (Found × Float32)}
    (hranked : ∀ p ∈ ranked, p.1 ∈ query.foundFrom a 0 segments ∧
      ∃ x, g.scoreAt? p.1.place entry = some (.ok x) ∧ p.2 = x * searchWeight)
    (hs : s.world.Keeps g.direct) :
    ∃ hits t, Service.mapMatches Service.eachExplained q segments (ranked.map Found.withScore) s =
        (.ok hits, t) ∧
      hits.map Prod.fst = ranked.map (fun p => ⟨Service.book p.1.document, p.2⟩) ∧
      ∀ p ∈ hits, p.2.Explains p.1.score := by
  induction ranked generalizing s with
  | nil => exact ⟨[], s, rfl, rfl, fun p hp => absurd hp List.not_mem_nil⟩
  | cons p rest ih =>
      obtain ⟨hm, x, hx, hweighed⟩ := hranked p List.mem_cons_self
      have hsegment := (mem_foundFrom.mp hm).2.1
      have hhit : Service.hit segments (Found.withScore p) =
          .ok ⟨Service.book p.1.document, p.2⟩ := hit_eq hm p.2
      obtain ⟨t, hexplained, ht⟩ := explain_found hplan hcontext hscore hsizes hm hx hs
      obtain ⟨hits, u, hrest, hfirsts, hexplains⟩ :=
        ih (fun r hr => hranked r (List.mem_cons_of_mem p hr)) ht
      have heach : Service.eachExplained q segments (Found.withScore p) s =
          (.ok (⟨Service.book p.1.document, p.2⟩, q.explanation x), t) := by
        have hcurrent : (segments[p.1.number]?).getD [] = p.1.segment := by
          rw [show segments[p.1.number]? = some p.1.segment from hsegment]
          rfl
        unfold Service.eachExplained
        simp only [hhit]
        simp only [Found.withScore, hcurrent, hexplained]
      refine ⟨(⟨Service.book p.1.document, p.2⟩, q.explanation x) :: hits, u, ?_, ?_, ?_⟩
      · simp only [List.map_cons, Service.mapMatches, heach, hrest]
      · rw [List.map_cons, List.map_cons, hfirsts]
      · intro r hr
        rcases List.mem_cons.mp hr with rfl | hr
        · exact hweighed ▸ ComputedQuery.explanation_explains hboost x
        · exact hexplains r hr

end

/-! ## The search -/

/-- A plan is run with explanations as it is without them. -/
theorem runPlan_explained {g : Graph} {entry : String} {a : Analyzer} {query : Query} {plan : Plan}
    {segments : List Segment} {score : Variables.ScoreFunction} {start : ScoreState}
    (hplan : Plan.ofQuery a query = .ok plan)
    (hsizes : ∀ segment ∈ segments, segment.length ≤ noMoreDocs)
    (hscore : Answers g.direct score fun p r => g.scoreAt? p entry = some r)
    (hstart : start.Keeps g.direct) (limit : Nat) :
    ExplainedAs (Service.runPlan Service.eachExplained segments plan limit score start).1
      (Service.runPlan Service.eachHit segments plan limit score start).1 := by
  obtain ⟨results, hmatched, hevaluated, hgoes⟩ :=
    runPlan_scans hplan hsizes hscore hstart limit
  rcases hgoes with ⟨e, _, hfails⟩ | ⟨scored, s, rfl, hs, hgoes⟩
  · rw [hfails, hfails]
    exact .error _
  · obtain ⟨best, hbest, hmem⟩ := exists_best limit (scored.map fun p => (p.1, p.2 * searchWeight))
    have hranked : ∀ p ∈ best, p.1 ∈ query.foundFrom a 0 segments ∧
        ∃ x, g.scoreAt? p.1.place entry = some (.ok x) ∧ p.2 = x * searchWeight := by
      intro p hp
      obtain ⟨r, hr, rfl⟩ := List.mem_map.mp (hmem p hp)
      have hresult := List.mem_map_of_mem (f := fun p : Found × Float32 =>
        (p.1, (Except.ok p.2 : Except ScoreError Float32))) hr
      exact ⟨hmatched ▸ List.mem_map_of_mem (f := Prod.fst) hresult, r.2, hevaluated _ hresult, rfl⟩
    obtain ⟨hits, t, hexplained, hfirsts, hexplains⟩ := mapMatches_eachExplained
      (q := ⟨plan, 1.0, searchContext, score⟩) (s := s) hplan rfl rfl hscore hsizes hranked hs
    rw [hgoes, hgoes, hbest, hexplained, mapMatches_eachHit fun p hp => hit_eq (hranked p hp).1 p.2]
    refine ⟨congrArg Except.ok hfirsts, fun explained h => ?_⟩
    cases h
    exact hexplains

/-- A search with explanations on an opened service goes as it goes without them. -/
theorem Service.Checked.explained {ε : Type} {s : Service ε} (hs : s.Checked)
    (hsizes : ∀ segments, s.snapshot = some segments →
      ∀ segment ∈ segments, segment.length ≤ noMoreDocs) (query : Query) (limit : Nat) :
    ExplainedAs (s.explainTop query limit).1 (s.search query limit).1 := by
  unfold explainTop search
  cases hsnapshot : s.snapshot with
  | none =>
      rw [collect_notCommitted _ hsnapshot, collect_notCommitted _ hsnapshot]
      exact .error _
  | some segments =>
      cases hplan : Plan.ofQuery s.analyzer query with
      | error e =>
          rw [collect_unplanned _ hsnapshot hplan, collect_unplanned _ hsnapshot hplan]
          exact .error _
      | ok plan =>
          by_cases hlimit : limit = 0
          · rw [hlimit, collect_nothing _ hsnapshot hplan, collect_nothing _ hsnapshot hplan]
            exact .nil
          · obtain ⟨score, start, hscore, hstart, hruns⟩ := hs.collect_eq hsnapshot hplan hlimit
            rw [hruns, hruns]
            exact runPlan_explained hplan (hsizes segments hsnapshot) hscore hstart limit

/-- On an opened service, a search with explanations succeeds exactly when the search without them
does, with the same hits in the same order, and fails with the same error. The explanation of every
hit has its score as value, which is the computed score times the product of boost and norm.
Documents are numbered below the place behind the last match. -/
theorem explainTop_eq_search {ε : Type} {s : Service ε} (hs : s.Checked)
    (hsizes : ∀ segments, s.snapshot = some segments →
      ∀ segment ∈ segments, segment.length ≤ noMoreDocs) (query : Query) (limit : Nat) :
    (s.explainTop query limit).1.map (List.map Prod.fst) = (s.search query limit).1 ∧
      ∀ hits, (s.explainTop query limit).1 = .ok hits →
        ∀ p ∈ hits, p.2.Explains p.1.score := by
  have h := hs.explained hsizes query limit
  exact ⟨h.hits, h.explains⟩

def Service.oneTitle : Service Unit :=
  ⟨Analysis.Stem.ofWord, Graph.titleLength, "length", 15000000, [], none, some [[.titled ["Dune"]]]⟩

/-- A single match that can be ranked is the best. -/
theorem topRanked_single {r : Ranked} (h : lowestScore < r.score) : topRanked 1 [r] = [r] := by
  simp [topRanked, h]

theorem Service.search_oneTitle :
    (oneTitle.search .matchAll 1).1 = .ok [⟨⟨"Dune", ""⟩, 4.0⟩] := by
  have hbest : topRanked 1 [⟨0, 0, 4.0⟩] = [⟨0, 0, 4.0⟩] := topRanked_single (by decide)
  change (mapMatches eachHit _ [[.titled ["Dune"]]] (topRanked 1 [⟨0, 0, 4.0⟩]) _).1 = _
  rw [hbest]
  rfl

theorem explainTop_oneTitle : ∃ explanation,
    (Service.oneTitle.explainTop .matchAll 1).1 = .ok [(⟨⟨"Dune", ""⟩, 4.0⟩, explanation)] ∧
      explanation.Explains 4.0 := by
  have hchecked : Service.oneTitle.Checked := ⟨Graph.declared_titleLength, rfl, rfl⟩
  have hsizes : ∀ segments, Service.oneTitle.snapshot = some segments →
      ∀ segment ∈ segments, segment.length ≤ noMoreDocs := by
    intro segments hsegments
    obtain rfl := Option.some.inj hsegments
    decide
  obtain ⟨hhits, hexplains⟩ := explainTop_eq_search hchecked hsizes .matchAll 1
  rw [Service.search_oneTitle] at hhits
  cases hresult : (Service.oneTitle.explainTop .matchAll 1).1 with
  | error e =>
      rw [hresult] at hhits
      cases hhits
  | ok hits =>
      rw [hresult] at hhits
      obtain ⟨⟨_, explanation⟩, rest, rfl, rfl, hrest⟩ :=
        List.map_eq_cons_iff.mp (Except.ok.inj hhits)
      cases List.map_eq_nil_iff.mp hrest
      exact ⟨explanation, rfl, hexplains _ hresult _ List.mem_cons_self⟩
end Catalogue
