import Catalogue.Proofs.Outcome
import Catalogue.Proofs.Query.Meaning
import Catalogue.Search.Computed

/-! # What a query looks up

A query looks tokens up in an order of its own, said by recursion on the query. Planning puts the
clauses of a boolean query together in new ways, and its plan still looks up these tokens: none is
lost, repeated or moved. -/

namespace Catalogue

/-- What clauses give, sort by sort: the `must` clauses before the `should` clauses and these before
the `mustNot` clauses, each sort in declaration order. -/
def sortBySort {α : Type} (clauses : List (Occur × List α)) : List α :=
  [Occur.must, .should, .mustNot].flatMap fun occur =>
    (clauses.filter fun c => c.1 = occur).flatMap Prod.snd

mutual
/-- The tokens that a query looks up, in order and with repetition: the text of a term, and the
tokens of a text one by one. A range looks up none. -/
def Query.lookups (a : Analyzer) : Query → List (Field × String)
  | .matchAll | .range _ => []
  | .term field t =>
    match Field.ofName? field, t.render field with
    | some f, .ok token => [(f, token)]
    | _, _ => []
  | .text field text =>
    match Field.ofName? field, a.analyze field text with
    | some f, .ok tokens => tokens.map fun token => (f, token)
    | _, _ => []
  | .boolean clauses _ => sortBySort (clauseLookups a clauses)
  | .constantScore q _ => q.lookups a
  | .boosted q _ => q.lookups a

def clauseLookups (a : Analyzer) : List (Occur × Query) → List (Occur × List (Field × String))
  | [] => []
  | (occur, q) :: rest => (occur, q.lookups a) :: clauseLookups a rest
end

/-! ## Tokens of several plans -/

theorem allTerms_eq_flatMap (plans : List Plan) : allTerms plans = plans.flatMap Plan.terms := by
  induction plans with
  | nil => rfl
  | cons plan rest ih => rw [allTerms, ih, List.flatMap_cons]

theorem clauseTerms_eq_flatMap (parts : List (Occur × Plan)) :
    clauseTerms parts = parts.flatMap fun p => p.2.terms := by
  induction parts with
  | nil => rfl
  | cons part rest ih => rw [clauseTerms, ih, List.flatMap_cons]

theorem clauseTerms_append (parts others : List (Occur × Plan)) :
    clauseTerms (parts ++ others) = clauseTerms parts ++ clauseTerms others := by
  simp only [clauseTerms_eq_flatMap, List.flatMap_append]

/-- Which part plans play does not change what they look up. -/
theorem clauseTerms_map (occur : Occur) (plans : List Plan) :
    clauseTerms (plans.map fun p => (occur, p)) = plans.flatMap Plan.terms := by
  rw [clauseTerms_eq_flatMap, List.flatMap_map]

/-! ## Planning keeps what is looked up -/

/-- Joining planned clauses brings them together sort by sort. The part that stands in for missing
ones looks up nothing, and `should` parts look up the same whether they stay apart or not. -/
theorem terms_ofClauses (minimum : Nat) (parts : List (Occur × Plan)) :
    (Plan.ofClauses minimum parts).terms = sortBySort (parts.map fun p => (p.1, p.2.terms)) := by
  have hsorts : sortBySort (parts.map fun p => (p.1, p.2.terms)) =
      (partsOf .must parts).flatMap Plan.terms ++ (partsOf .should parts).flatMap Plan.terms ++
        (partsOf .mustNot parts).flatMap Plan.terms := by
    simp [sortBySort, partsOf, List.filter_map, List.flatMap_map, Function.comp_def]
  rw [hsorts]
  unfold Plan.ofClauses
  by_cases hempty : parts.isEmpty
  · rw [if_pos hempty, List.isEmpty_iff.mp hempty]
    rfl
  · rw [if_neg hempty]
    by_cases hzero : minimum = 0
    · have hanchor : clauseTerms
          (if (partsOf .must parts).isEmpty && (partsOf .should parts).isEmpty
            then [(Occur.must, Plan.all)] else []) = [] := by
        split <;> rfl
      simp only [if_pos hzero, Plan.terms, clauseTerms_append, clauseTerms_map, hanchor,
        List.append_nil]
    · simp only [if_neg hzero, Plan.terms, clauseTerms_append, clauseTerms_map, clauseTerms,
        allTerms_eq_flatMap, List.append_nil]

section

variable {a : Analyzer}

theorem terms_ofText {field text : String} {plan : Plan} (h : Plan.ofText a field text = .ok plan) :
    plan.terms = (Query.text field text).lookups a := by
  obtain ⟨f, hf, h⟩ := bind_eq_ok_iff.mp h
  obtain ⟨tokens, htokens, h⟩ := bind_eq_ok_iff.mp h
  cases h
  simp only [Plan.terms, clauseTerms_eq_flatMap, List.flatMap_map, Query.lookups,
    resolve_eq_ok_iff.mp hf, htokens]
  exact List.flatMap_pure_eq_map _ tokens

theorem terms_ofRange {r : Range} {plan : Plan} (h : Plan.ofRange r = .ok plan) :
    plan.terms = [] := by
  obtain ⟨_, _, h⟩ := bind_eq_ok_iff.mp h
  obtain ⟨_, _, h⟩ := bind_eq_ok_iff.mp h
  obtain ⟨_, _, h⟩ := bind_eq_ok_iff.mp h
  obtain ⟨_, _, h⟩ := bind_eq_ok_iff.mp h
  cases h
  rfl

mutual
/-- The plan of a query looks up what the query looks up. -/
theorem terms_ofQuery : (q : Query) → {plan : Plan} → Plan.ofQuery a q = .ok plan →
    plan.terms = q.lookups a
  | .matchAll, _, h => by
      cases h
      rfl
  | .term field t, _, h => by
      obtain ⟨f, hf, h⟩ := bind_eq_ok_iff.mp h
      obtain ⟨token, htoken, h⟩ := bind_eq_ok_iff.mp h
      cases h
      simp only [Plan.terms, Query.lookups, resolve_eq_ok_iff.mp hf, htoken]
  | .text _ _, _, h => terms_ofText h
  | .boolean clauses minimum, _, h => by
      obtain ⟨parts, hparts, h⟩ := bind_eq_ok_iff.mp h
      cases h
      rw [terms_ofClauses, terms_planClauses clauses hparts, Query.lookups]
  | .constantScore q _, _, h => by
      obtain ⟨plan, hplan, h⟩ := bind_eq_ok_iff.mp h
      cases h
      rw [Plan.terms, Query.lookups, terms_ofQuery q hplan]
  | .boosted q _, _, h => by
      obtain ⟨plan, hplan, h⟩ := bind_eq_ok_iff.mp h
      cases h
      rw [Plan.terms, Query.lookups, terms_ofQuery q hplan]
  | .range _, _, h => by rw [terms_ofRange h, Query.lookups]

theorem terms_planClauses : (clauses : List (Occur × Query)) → {parts : List (Occur × Plan)} →
    planClauses a clauses = .ok parts →
    parts.map (fun p => (p.1, p.2.terms)) = clauseLookups a clauses
  | [], _, h => by
      cases h
      rfl
  | (occur, q) :: rest, _, h => by
      obtain ⟨plan, hplan, h⟩ := bind_eq_ok_iff.mp h
      obtain ⟨parts, hparts, h⟩ := bind_eq_ok_iff.mp h
      cases h
      rw [List.map_cons, clauseLookups, terms_ofQuery q hplan, terms_planClauses rest hparts]
end

end

/-- A query that can be planned is looked up token by token as it says itself, whatever its minima
are, and computing scores for the plan changes nothing about that. -/
theorem plan_looksUp {a : Analyzer} {q : Query} {plan : Plan} (h : Plan.ofQuery a q = .ok plan) :
    plan.terms = q.lookups a ∧
      ∀ {σ : Type} (c : ComputedQuery σ), c.plan = plan → c.terms = q.lookups a := by
  have hterms := terms_ofQuery q h
  refine ⟨hterms, fun c hc => ?_⟩
  rw [ComputedQuery.terms, hc, hterms]

/-- Clauses of all sorts out of order, a text with a repeated word, and a minimum that the `should`
clauses cannot reach. -/
def Query.outOfOrder : Query :=
  .boolean [(.mustNot, .term "isbn" (.string "c")), (.should, .text "title" "war and war"),
    (.must, .boosted (.term "isbn" (.boolean true)) 2.0), (.should, .matchAll),
    (.must, .text "isbn" "a b")] 9

theorem plan_looksUp_outOfOrder :
    ∃ plan, Plan.ofQuery ⟨some Analysis.Stem.ofWord⟩ Query.outOfOrder = .ok plan ∧
      plan.terms = [(.isbn, "true"), (.isbn, "a b"), (.title, "war"), (.title, "and"),
        (.title, "war"), (.isbn, "c")] := by
  obtain ⟨plan, hplan⟩ :
      ∃ plan, Plan.ofQuery ⟨some Analysis.Stem.ofWord⟩ Query.outOfOrder = .ok plan :=
    ⟨_, rfl⟩
  refine ⟨plan, hplan, (plan_looksUp hplan).1.trans ?_⟩
  decide +kernel

end Catalogue
