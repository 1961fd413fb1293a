import Catalogue.Proofs.Score.Builtin
import Catalogue.Proofs.Search.Results

/-! # Which matches a search finds

A search for as many hits as there are matches shows each match once, in some order, if its score is
a number. A match whose score is none is not ranked, and so not shown. Scores of the built-in
functions are numbers, except where infinity is multiplied by zero. -/

namespace Catalogue

/-- The weight of a search does not make a number of what is none, nor the other way round. -/
theorem Unsigned.rankable_weighed {x : Float32} (hx : Unsigned x) (m : Found) :
    rankable (m, x * searchWeight) = decide (IsNumber x) := by
  have hone : isZero searchWeight.toModel.unpack = false := rfl
  have hsign := hx.scoreSign?_mul_of_ne (y := searchWeight) rfl rfl hone
  have hweighed : Unsigned (x * searchWeight) := by
    rw [Unsigned, hsign]
    exact hx
  refine decide_eq_decide.mpr (hweighed.lowest_lt_iff.trans ?_)
  rw [isNumber_iff_sign, isNumber_iff_sign, hsign]

theorem IsAnswer.exists_ranked {limit : Nat} {scored : List (Found × Float32)} {hits : List Hit}
    (h : IsAnswer limit (scored.map fun p => (p.1, .ok p.2)) (.ok hits)) :
    ∃ ranked : List (Found × Float32),
      ranked.Perm ((scored.map fun p => (p.1, p.2 * searchWeight)).filter rankable) ∧
      hits = (ranked.take limit).map fun p => ⟨Service.book p.1.document, p.2⟩ := by
  generalize hresults : (scored.map fun p => (p.1, Except.ok p.2)) = results at h
  cases h with
  | @ranks scored' ranked hperm _ =>
      obtain rfl := eq_of_map_scored_eq hresults
      exact ⟨ranked, hperm, rfl⟩

/-- An answer with room for all matches shows those whose scores are numbers. -/
theorem IsAnswer.hits_perm {limit : Nat} {scored : List (Found × Float32)} {hits : List Hit}
    (h : IsAnswer limit (scored.map fun p => (p.1, .ok p.2)) (.ok hits))
    (hlimit : scored.length ≤ limit) (hunsigned : ∀ p ∈ scored, Unsigned p.2) :
    hits.Perm ((scored.filter fun p => IsNumber p.2).map fun p =>
      ⟨Service.book p.1.document, p.2 * searchWeight⟩) := by
  obtain ⟨ranked, hperm, rfl⟩ := h.exists_ranked
  have hfilter : (scored.map fun p => (p.1, p.2 * searchWeight)).filter rankable =
      (scored.filter fun p => IsNumber p.2).map fun p => (p.1, p.2 * searchWeight) := by
    rw [List.filter_map]
    congr 1
    exact List.filter_congr fun p hp => (hunsigned p hp).rankable_weighed p.1
  rw [hfilter] at hperm
  have hroom : ranked.length ≤ limit := by
    calc
      ranked.length = (scored.filter fun p => IsNumber p.2).length := by
        rw [hperm.length_eq, List.length_map]
      _ ≤ scored.length := List.length_filter_le _ _
      _ ≤ limit := hlimit
  rw [List.take_of_length_le hroom]
  exact (hperm.map _).trans (List.Perm.of_eq List.map_map)

/-- A search of an opened service over built-in functions that has room for all matches and does not
fail scores each match, and shows it once if its score is a number. It is one unless infinity is
multiplied by zero there. -/
theorem search_shows_numbers {ε : Type} {s : Service ε} (hs : s.Checked) {scoring : ScoringSettings}
    (hbuiltin : Graph.ofSettings scoring Registry.builtin = .ok s.graph) {segments : List Segment}
    (hsnapshot : s.snapshot = some segments)
    (hsizes : ∀ segment ∈ segments, segment.length ≤ noMoreDocs) {query : Query} {plan : Plan}
    (hplan : Plan.ofQuery s.analyzer query = .ok plan) {limit : Nat}
    (hlimit : (query.foundFrom s.analyzer 0 segments).length ≤ limit) {hits : List Hit}
    (hanswer : (s.search query limit).1 = .ok hits) :
    ∃ scored : List (Found × Float32),
      scored.map Prod.fst = query.foundFrom s.analyzer 0 segments ∧
      (∀ p ∈ scored, s.graph.scoreAt? p.1.place s.score = some (.ok p.2) ∧
        (IsNumber p.2 ∨ s.graph.MultipliesOut p.1.place)) ∧
      hits.Perm ((scored.filter fun p => IsNumber p.2).map fun p =>
        ⟨Service.book p.1.document, p.2 * searchWeight⟩) := by
  by_cases hzero : limit = 0
  · subst hzero
    have hnothing := Service.collect_nothing Service.eachHit hsnapshot hplan
    have hnone := List.eq_nil_of_length_eq_zero (Nat.le_zero.mp hlimit)
    cases hnothing.symm.trans hanswer
    exact ⟨[], hnone.symm, fun _ hp => absurd hp List.not_mem_nil, .nil⟩
  · obtain ⟨score, start, hscore, hstart, hcollect⟩ := hs.collect_eq hsnapshot hplan hzero
    obtain ⟨results, hmatched, hvalues, hresult⟩ :=
      runPlan_isAnswer hplan hsizes hscore hstart limit
    rw [← hcollect Service.eachHit, show (Service.collect _ s query limit).1 = _ from hanswer]
      at hresult
    have hnofailure : firstFailure? results = none := by
      cases hfailure : firstFailure? results with
      | none => rfl
      | some e => cases hresult.eq_error hfailure
    obtain ⟨scored, rfl⟩ := exists_scored hnofailure
    rw [List.map_map] at hmatched
    have hsigns : ∀ p ∈ scored, s.graph.scoreAt? p.1.place s.score = some (.ok p.2) :=
      fun p hp => hvalues _ (List.mem_map_of_mem hp)
    have husesBuiltin := Graph.usesBuiltin_of_ofSettings hbuiltin
    have hscores := fun p hp => husesBuiltin.scoreAt? hs.declared.wired (hsigns p hp)
    refine ⟨scored, hmatched, fun p hp => ⟨hsigns p hp, ?_⟩, hresult.hits_perm ?_ ?_⟩
    · by_cases hout : s.graph.MultipliesOut p.1.place
      · exact .inr hout
      · exact .inl ((hscores p hp).2 hout)
    · rw [← hmatched, List.length_map] at hlimit
      exact hlimit
    · exact fun p hp => (hscores p hp).1

/-! ## A score beyond all numbers -/

/-- The length of the title, times one hundred to the 32nd power, which is beyond all numbers. -/
def ScoringSettings.overflowing : ScoringSettings :=
  ⟨[⟨"title", "title", .string⟩],
    [⟨"e2", "constant_score", []⟩, ⟨"e4", "product", ["e2", "e2"]⟩,
      ⟨"e8", "product", ["e4", "e4"]⟩, ⟨"e16", "product", ["e8", "e8"]⟩,
      ⟨"e32", "product", ["e16", "e16"]⟩, ⟨"e64", "product", ["e32", "e32"]⟩,
      ⟨"title_length", "length", ["title"]⟩, ⟨"scaled", "product", ["e64", "title_length"]⟩]⟩

def Graph.overflowing : Graph :=
  ⟨[⟨"title", .string, .leaf "title" .string⟩, ⟨"e2", .float, .derived [] Registry.constantScore⟩,
    ⟨"e4", .float, .derived [1, 1] Registry.product⟩,
    ⟨"e8", .float, .derived [2, 2] Registry.product⟩,
    ⟨"e16", .float, .derived [3, 3] Registry.product⟩,
    ⟨"e32", .float, .derived [4, 4] Registry.product⟩,
    ⟨"e64", .float, .derived [5, 5] Registry.product⟩,
    ⟨"title_length", .float, .derived [0] Registry.length⟩,
    ⟨"scaled", .float, .derived [6, 7] Registry.product⟩]⟩

def Service.overflowing (documents : List Document) : Service Unit :=
  ⟨Analysis.Stem.ofWord, Graph.overflowing, "scaled", 15000000, [], none, some [documents]⟩

theorem Graph.ofSettings_overflowing :
    Graph.ofSettings ScoringSettings.overflowing Registry.builtin = .ok Graph.overflowing := rfl

theorem decide_isNumber_of_scoreAt? {g : Graph} {p : Place} {name : String} {x : Float32} {b : Bool}
    (hx : g.scoreAt? p name = some (.ok x))
    (h : (g.scoreAt? p name).map (fun r => r.toOption.map fun x => decide (IsNumber x)) =
      some (some b)) : decide (IsNumber x) = b := by
  rw [hx] at h
  exact Option.some.inj (Option.some.inj h)

/-- Of two books, of which one has an empty title, the other is shown. -/
theorem search_shows_dune :
    ∃ hits, ((Service.overflowing [.titled [""], .titled ["Dune"]]).search .matchAll 2).1 =
        .ok hits ∧ hits.map Hit.book = [⟨"Dune", ""⟩] := by
  have hchecked : (Service.overflowing [.titled [""], .titled ["Dune"]]).Checked :=
    ⟨.inr ⟨_, _, Graph.ofSettings_overflowing⟩, rfl, rfl⟩
  have hplan : Plan.ofQuery ⟨some Analysis.Stem.ofWord⟩ .matchAll = .ok .all := rfl
  have hanswers : ((Service.overflowing [.titled [""], .titled ["Dune"]]).search
      .matchAll 2).1.toOption.isSome := by decide +kernel
  obtain ⟨hits, hsome⟩ := Option.isSome_iff_exists.mp hanswers
  have hhits := toOption_eq_some_iff.mp hsome
  refine ⟨hits, hhits, ?_⟩
  obtain ⟨scored, hmatched, hscores, hperm⟩ := search_shows_numbers hchecked
    Graph.ofSettings_overflowing rfl (by decide) hplan (by decide) hhits
  obtain ⟨p, rest, rfl, hp, hrest⟩ := List.map_eq_cons_iff.mp hmatched
  obtain ⟨q, _, rfl, hq, hnone⟩ := List.map_eq_cons_iff.mp hrest
  cases List.map_eq_nil_iff.mp hnone
  have hpnumber : decide (IsNumber p.2) = false := by
    refine decide_isNumber_of_scoreAt? (hscores p List.mem_cons_self).1 ?_
    rw [hp]
    decide +kernel
  have hqnumber : decide (IsNumber q.2) = true := by
    refine decide_isNumber_of_scoreAt? (hscores q (List.mem_cons_of_mem p List.mem_cons_self)).1 ?_
    rw [hq]
    decide +kernel
  have hfilter : [p, q].filter (fun p => IsNumber p.2) = [q] := by
    simp only [List.filter, hpnumber, hqnumber]
  rw [hfilter] at hperm
  rw [List.perm_singleton.mp hperm]
  exact congrArg (fun m => [Service.book m.document]) hq

/-- A match is not shown, though the search does not fail and has room for it. -/
theorem search_omits_emptyTitle :
    ∃ s : Service Unit,
      Service.ofSettings ⟨fun _ word => word⟩ ⟨[[.titled [""]]], false⟩ ⟨"english", 15000000⟩
        ScoringSettings.overflowing Registry.builtin "scaled" = .ok s ∧
      (Query.matchAll.foundFrom s.analyzer 0 [[.titled [""]]]).length = 1 ∧
      (s.search .matchAll 10).1 = .ok [] := by
  have hempty : ((Service.overflowing [.titled [""]]).search .matchAll 10).1.toOption = some [] := by
    decide +kernel
  exact ⟨Service.overflowing [.titled [""]], rfl, rfl, toOption_eq_some_iff.mp hempty⟩

end Catalogue
