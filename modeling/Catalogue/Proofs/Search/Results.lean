import Catalogue.Proofs.Search.Scan
import Catalogue.Proofs.Search.Soundness

/-! # A search answers as it should

A search scans the matches of its plan, which are the documents that its query means. The first
failure is its answer, and otherwise the best of the matches that can be ranked, each with its own
document. -/

namespace Catalogue

/-! ## The ranking -/

def Found.withScore (p : Found × Float32) : Ranked := ⟨p.1.number, p.1.doc, p.2⟩

def scoresAtLeast (p q : Found × Float32) : Bool := decide (p.2 ≥ q.2)

theorem scoresAtLeast_iff {p q : Found × Float32} : scoresAtLeast p q = true ↔ q.2 ≤ p.2 :=
  decide_eq_true_iff

/-- Matches whose scores are numbers are sorted by who is ahead. -/
theorem pairwise_mergeSort_ahead {matched : List (Found × Float32)}
    (hnumber : ∀ p ∈ matched, IsNumber p.2)
    (hbefore : matched.Pairwise fun p q => p.1.Before q.1) :
    (matched.mergeSort scoresAtLeast).Pairwise Ahead := by
  have trans : ∀ p q r, scoresAtLeast p q → scoresAtLeast q r → scoresAtLeast p r := by
    intro p q r hpq hqr
    exact scoresAtLeast_iff.mpr
      (score_le_trans (scoresAtLeast_iff.mp hqr) (scoresAtLeast_iff.mp hpq))
  have total : ∀ p q, IsNumber p.2 → IsNumber q.2 → scoresAtLeast p q || scoresAtLeast q p := by
    intro p q hp hq
    rw [Bool.or_eq_true, scoresAtLeast_iff, scoresAtLeast_iff]
    exact score_le_total hq hp
  have hsorted := pairwise_mergeSort_stable_of (P := fun p : Found × Float32 => IsNumber p.2)
    trans total hnumber hbefore
  refine hsorted.imp_of_mem fun {p q} hp hq h => ?_
  have hp := hnumber p (List.mem_mergeSort.mp hp)
  have hq := hnumber q (List.mem_mergeSort.mp hq)
  by_cases htie : p.2 ≤ q.2
  · exact .inr ⟨⟨scoresAtLeast_iff.mp h.1, htie⟩, h.2 (scoresAtLeast_iff.mpr htie)⟩
  · exact .inl ((score_lt_iff_not_le hq hp).mpr htie)

/-- The best of the matches that can be ranked are the first of them in order. -/
theorem topRanked_eq (limit : Nat) (matched : List (Found × Float32)) :
    topRanked limit (matched.map Found.withScore) =
      (((matched.filter rankable).mergeSort scoresAtLeast).take limit).map Found.withScore := by
  have hsort := List.map_mergeSort (r := scoresAtLeast)
    (s := fun a b : Ranked => decide (a.score ≥ b.score)) (f := Found.withScore)
    (l := matched.filter rankable) fun _ _ _ _ => rfl
  rw [topRanked, List.filter_map, List.map_take, hsort]
  rfl

/-- The best are some of the matches. -/
theorem exists_best (limit : Nat) (matched : List (Found × Float32)) :
    ∃ best : List (Found × Float32),
      topRanked limit (matched.map Found.withScore) = best.map Found.withScore ∧
        ∀ p ∈ best, p ∈ matched := by
  refine ⟨_, topRanked_eq limit matched, fun p hp => ?_⟩
  exact (List.mem_filter.mp (List.mem_mergeSort.mp (List.mem_of_mem_take hp))).1

/-! ## The hits -/

theorem hit_eq {a : Analyzer} {query : Query} {segments : List Segment} {m : Found}
    (hm : m ∈ query.foundFrom a 0 segments) (x : Float32) :
    Service.hit segments (Found.withScore (m, x)) = .ok ⟨Service.book m.document, x⟩ := by
  obtain ⟨_, hsegment, hdoc, _⟩ := mem_foundFrom.mp hm
  have hfound : (segments[m.number]?).bind (·[m.doc]?) = some m.document := by
    rw [show segments[m.number]? = some m.segment from hsegment]
    exact hdoc
  simp only [Service.hit, Found.withScore, hfound]

theorem mapMatches_eachHit {q : ComputedQuery ScoreState} {segments : List Segment}
    {ranked : List (Found × Float32)} {s : SearchState ScoreState}
    (h : ∀ p ∈ ranked, Service.hit segments (Found.withScore p) =
      .ok ⟨Service.book p.1.document, p.2⟩) :
    Service.mapMatches Service.eachHit q segments (ranked.map Found.withScore) s =
      (.ok (ranked.map fun p => ⟨Service.book p.1.document, p.2⟩), s) := by
  induction ranked with
  | nil => rfl
  | cons p rest ih =>
      have hp := h p List.mem_cons_self
      have hrest := ih fun q hq => h q (List.mem_cons_of_mem p hq)
      simp only [List.map_cons, Service.mapMatches, Service.eachHit, hp]
      rw [hrest]

/-! ## The search -/

/-- The hits of the best matches, when nothing failed, are the answer. -/
theorem mapMatches_isAnswer {a : Analyzer} {query : Query} {segments : List Segment}
    {scored : List (Found × Float32)}
    (hmatched : scored.map Prod.fst = query.foundFrom a 0 segments) (limit : Nat)
    (q : ComputedQuery ScoreState) (s : SearchState ScoreState) :
    IsAnswer limit (scored.map fun p => (p.1, .ok p.2))
      (Service.mapMatches Service.eachHit q segments (topRanked limit
        ((scored.map fun p => (p.1, p.2 * searchWeight)).map Found.withScore)) s).1 := by
  generalize hweighed : (scored.map fun p => (p.1, p.2 * searchWeight)) = matched
  have hfound : matched.map Prod.fst = query.foundFrom a 0 segments := by
    rw [← hmatched, ← hweighed, List.map_map]
    rfl
  have hbefore : matched.Pairwise fun p q => p.1.Before q.1 := by
    rw [← List.pairwise_map (f := Prod.fst), hfound]
    exact foundFrom_pairwise 0 segments
  have hnumber : ∀ p ∈ matched.filter rankable, IsNumber p.2 := by
    intro p hp
    exact isNumber_of_lt (of_decide_eq_true (List.mem_filter.mp hp).2)
  have hperm := List.mergeSort_perm (matched.filter rankable) scoresAtLeast
  have hhits : ∀ p ∈ ((matched.filter rankable).mergeSort scoresAtLeast).take limit,
      Service.hit segments (Found.withScore p) = .ok ⟨Service.book p.1.document, p.2⟩ := by
    intro p hp
    have hmem := (List.mem_filter.mp (hperm.mem_iff.mp (List.mem_of_mem_take hp))).1
    exact hit_eq (hfound ▸ List.mem_map_of_mem (f := Prod.fst) hmem) p.2
  rw [topRanked_eq, mapMatches_eachHit hhits]
  exact .ranks (hweighed ▸ hperm) (pairwise_mergeSort_ahead hnumber (hbefore.filter rankable))

/-- A search scans the matches of its plan, whatever it makes of the best of them. The first failure
ends it; without one it goes on to the best matches, with what is kept still right. -/
theorem runPlan_scans {g : Graph} {entry : String} {a : Analyzer} {query : Query} {plan : Plan}
    {segments : List Segment} {score : Variables.ScoreFunction} {start : ScoreState}
    (hplan : Plan.ofQuery a query = .ok plan)
    (hsizes : ∀ segment ∈ segments, segment.length ≤ noMoreDocs)
    (hscore : Answers g.direct score fun p r => g.scoreAt? p entry = some r)
    (hstart : start.Keeps g.direct) (limit : Nat) :
    ∃ results, results.map Prod.fst = query.foundFrom a 0 segments ∧
      (∀ p ∈ results, g.scoreAt? p.1.place entry = some p.2) ∧
      ((∃ e, firstFailure? results = some e ∧ ∀ {α : Type} (each : Service.Each α),
          (Service.runPlan each segments plan limit score start).1 = .error (.scoring e)) ∨
        ∃ (scored : List (Found × Float32)) (s : SearchState ScoreState),
          results = scored.map (fun p => (p.1, .ok p.2)) ∧ s.world.Keeps g.direct ∧
          ∀ {α : Type} (each : Service.Each α),
            (Service.runPlan each segments plan limit score start).1 =
              (Service.mapMatches each ⟨plan, 1.0, searchContext, score⟩ segments
                (topRanked limit ((scored.map fun p => (p.1, p.2 * searchWeight)).map
                  Found.withScore)) s).1) := by
  obtain ⟨results, hscans, hscores⟩ := scoreFrom_scans
    (q := ⟨plan, 1.0, searchContext, score⟩) (s := ⟨start, none⟩) rfl hscore hplan hsizes 0 hstart
  refine ⟨results, hscans.matched, hscans.evaluated, ?_⟩
  have hfailure := hscans.failure
  rw [Option.none_or] at hfailure
  unfold Service.runPlan ComputedQuery.top SearchState.takeFailure
  simp only [hfailure, hscores]
  cases hfirst : firstFailure? results with
  | some e => exact .inl ⟨e, rfl, fun _ => rfl⟩
  | none =>
      obtain ⟨scored, rfl⟩ := exists_scored hfirst
      have hranked : (scored.map fun p => (p.1, Except.ok p.2)).map
          (Found.ranked (ComputedQuery.weight ⟨plan, 1.0, searchContext, score⟩ 1.0)) =
          (scored.map fun p => (p.1, p.2 * searchWeight)).map Found.withScore := by
        rw [List.map_map, List.map_map]
        rfl
      rw [hranked]
      exact .inr ⟨scored, ⟨_, none⟩, rfl, hscans.keeps, fun _ => rfl⟩

/-- What a scan of an index leads to is the answer of the search. -/
theorem runPlan_isAnswer {g : Graph} {entry : String} {a : Analyzer} {query : Query} {plan : Plan}
    {segments : List Segment} {score : Variables.ScoreFunction} {start : ScoreState}
    (hplan : Plan.ofQuery a query = .ok plan)
    (hsizes : ∀ segment ∈ segments, segment.length ≤ noMoreDocs)
    (hscore : Answers g.direct score fun p r => g.scoreAt? p entry = some r)
    (hstart : start.Keeps g.direct) (limit : Nat) :
    ∃ results, results.map Prod.fst = query.foundFrom a 0 segments ∧
      (∀ p ∈ results, g.scoreAt? p.1.place entry = some p.2) ∧
      IsAnswer limit results
        (Service.runPlan Service.eachHit segments plan limit score start).1 := by
  obtain ⟨results, hmatched, hevaluated, hgoes⟩ :=
    runPlan_scans hplan hsizes hscore hstart limit
  refine ⟨results, hmatched, hevaluated, ?_⟩
  rcases hgoes with ⟨e, hfirst, hfails⟩ | ⟨scored, s, rfl, _, hgoes⟩
  · obtain ⟨before, m, after, rfl, hbefore⟩ := exists_failing hfirst
    rw [hfails]
    exact .fails hbefore
  · rw [List.map_map] at hmatched
    rw [hgoes]
    exact mapMatches_isAnswer hmatched limit _ _

namespace Service

variable {ε α : Type} {s : Service ε} {segments : List Segment} {query : Query}

theorem collect_notCommitted (each : Each α) (h : s.snapshot = none) (limit : Nat) :
    (collect each s query limit).1 = .error .notCommitted := by
  simp only [collect, h]

theorem collect_unplanned (each : Each α) (hsnapshot : s.snapshot = some segments) {e : PlanError}
    (hplan : Plan.ofQuery s.analyzer query = .error e) (limit : Nat) :
    (collect each s query limit).1 = .error (.plan e) := by
  simp only [collect, hsnapshot, hplan]

theorem collect_nothing (each : Each α) (hsnapshot : s.snapshot = some segments) {plan : Plan}
    (hplan : Plan.ofQuery s.analyzer query = .ok plan) :
    (collect each s query 0).1 = .ok [] := by
  simp only [collect, hsnapshot, hplan, if_true]

end Service

/-- A search on an opened service runs the plan of its query, whatever it makes of the matches. -/
theorem Service.Checked.collect_eq {ε : Type} {s : Service ε} (hs : s.Checked)
    {segments : List Segment} (hsnapshot : s.snapshot = some segments) {query : Query} {plan : Plan}
    (hplan : Plan.ofQuery s.analyzer query = .ok plan) {limit : Nat} (hlimit : limit ≠ 0) :
    ∃ (score : Variables.ScoreFunction) (start : ScoreState),
      Answers s.graph.direct score (fun p r => s.graph.scoreAt? p s.score = some r) ∧
      start.Keeps s.graph.direct ∧ ∀ {α : Type} (each : Each α),
        (collect each s query limit).1 = (runPlan each segments plan limit score start).1 := by
  have hg := hs.declared.wired
  obtain ⟨vs, hvs, hfaithful⟩ := hg.direct_rules.exists_ofGraph hg hs.fields
  obtain ⟨i, score, hi, hscore, hanswers⟩ :=
    hfaithful.scoreFunction_answers hg.direct_rules hs.entry
  refine ⟨score, vs.start, hanswers.mono fun p r hr => Graph.scoreAt?_eq hi hr, .start _, ?_⟩
  intro α each
  unfold collect
  simp only [hsnapshot, hplan, hlimit, if_false, hvs, hscore]

/-- A search on an opened service answers as the documents that its query means determine. It
answers nothing if it is for no hits. Documents are numbered below the place behind the last
match. -/
theorem search_isAnswer {ε : Type} {s : Service ε} (hs : s.Checked) {segments : List Segment}
    (hsnapshot : s.snapshot = some segments)
    (hsizes : ∀ segment ∈ segments, segment.length ≤ noMoreDocs) {query : Query} {plan : Plan}
    (hplan : Plan.ofQuery s.analyzer query = .ok plan) (limit : Nat) :
    if limit = 0 then (s.search query limit).1 = .ok []
    else ∃ results, results.map Prod.fst = query.foundFrom s.analyzer 0 segments ∧
      (∀ p ∈ results, s.graph.scoreAt? p.1.place s.score = some p.2) ∧
      IsAnswer limit results (s.search query limit).1 := by
  split
  case isTrue hlimit =>
    subst hlimit
    exact Service.collect_nothing _ hsnapshot hplan
  case isFalse hlimit =>
    obtain ⟨score, start, hanswers, hstart, hcollect⟩ := hs.collect_eq hsnapshot hplan hlimit
    rw [Service.search, hcollect]
    exact runPlan_isAnswer hplan hsizes hanswers hstart limit

/-- The first failure among results is that of direct evaluation, match by match. -/
theorem firstFailure?_eq (value : Found → Option (Except ScoreError Float32))
    {results : List (Found × Except ScoreError Float32)} {found : List Found}
    (hmatched : results.map Prod.fst = found) (hvalues : ∀ p ∈ results, value p.1 = some p.2) :
    firstFailure? results = found.findSome? fun m => (value m).bind errorOf? := by
  subst hmatched
  induction results with
  | nil => rfl
  | cons p rest ih =>
      have hp := hvalues p List.mem_cons_self
      have hrest := ih fun q hq => hvalues q (List.mem_cons_of_mem p hq)
      rw [firstFailure?] at hrest ⊢
      rw [List.findSome?_cons, List.map_cons, List.findSome?_cons, hp, hrest]
      rfl

def Service.untitledSecond : Service Unit :=
  ⟨Analysis.Stem.ofWord, Graph.titleLength, "length", 15000000, [], none,
    some [[.titled ["Dune"], .titled []]]⟩

theorem search_untitledSecond :
    (Service.untitledSecond.search .matchAll 1).1 =
      .error (.scoring (.missingField "title" 1)) := by
  have hchecked : Service.untitledSecond.Checked := ⟨Graph.declared_titleLength, rfl, rfl⟩
  have hplan : Plan.ofQuery ⟨some Analysis.Stem.ofWord⟩ .matchAll = .ok .all := rfl
  obtain ⟨results, hmatched, hvalues, hanswer⟩ := search_isAnswer hchecked rfl (by decide) hplan 1
  refine hanswer.eq_error ?_
  rw [firstFailure?_eq (fun m => Graph.titleLength.scoreAt? m.place "length") hmatched hvalues]
  rfl

end Catalogue
