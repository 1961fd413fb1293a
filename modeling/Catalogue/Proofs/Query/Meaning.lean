import Catalogue.Plan.OfQuery
import Catalogue.Proofs.Outcome
import Catalogue.Proofs.Plan.Meaning
import Catalogue.Proofs.Text.ByteOrder

/-! # What a query means

A query says of every document whether it matches, by recursion on the query and with no mention
of plans or cursors. Planning keeps what a query means, so that the documents its cursor visits
are those the query means. -/

namespace Catalogue

def Range.spans (r : Range) (lower upper token : String) : Bool :=
  (if r.includeLower then decide (textBytes lower ≤ textBytes token)
    else decide (textBytes lower < textBytes token)) &&
  (if r.includeUpper then decide (textBytes token ≤ textBytes upper)
    else decide (textBytes token < textBytes upper))

/-- What a boolean query says of a document, given what its clauses say: all `must` clauses match,
no `mustNot` clause does, and so many of the `should` clauses. A minimum of zero asks for one of
them, if there are any and no `must` clause. -/
def clausesHold (minimum : Nat) (verdicts : List (Occur × Bool)) : Bool :=
  !verdicts.isEmpty && (verdictsOf .must verdicts).all id &&
    (verdictsOf .mustNot verdicts).all (!·) &&
    if minimum = 0 then
      !(verdictsOf .must verdicts).isEmpty || (verdictsOf .should verdicts).isEmpty ||
        (verdictsOf .should verdicts).any id
    else decide (minimum ≤ (verdictsOf .should verdicts).count true)

mutual
def Query.holds (a : Analyzer) (d : Document) : Query → Bool
  | .matchAll => true
  | .term field t =>
    match Field.ofName? field, t.render field with
    | some f, .ok token => (d.tokens f).contains token
    | _, _ => false
  | .text field text =>
    match Field.ofName? field, a.analyze field text with
    | some f, .ok tokens => tokens.any fun token => (d.tokens f).contains token
    | _, _ => false
  | .boolean clauses minimum => clausesHold minimum.toNat (clauseVerdicts a d clauses)
  | .constantScore q _ => q.holds a d
  | .boosted q _ => q.holds a d
  | .range r =>
    match Field.ofName? r.field, r.lower.render r.field, r.upper.render r.field with
    | some f, .ok lower, .ok upper => (d.tokens f).any (r.spans lower upper)
    | _, _, _ => false

def clauseVerdicts (a : Analyzer) (d : Document) : List (Occur × Query) → List (Occur × Bool)
  | [] => []
  | (occur, q) :: rest => (occur, q.holds a d) :: clauseVerdicts a d rest
end

/-! ## Planning keeps the meaning -/

theorem resolve_eq_ok_iff {name : String} {f : Field} :
    Field.resolve name = .ok f ↔ Field.ofName? name = some f := by
  unfold Field.resolve
  cases Field.ofName? name <;> simp

/-- The order of bytes is the order of texts. -/
theorem encloses_eq_spans (r : Range) (lower upper : String) :
    Bound.encloses ⟨lower, r.includeLower⟩ ⟨upper, r.includeUpper⟩ = r.spans lower upper := by
  funext token
  simp only [Bound.encloses, Range.spans, textBytes_lt_iff, textBytes_le_iff]

theorem partsOf_append (occur : Occur) (parts others : List (Occur × Plan)) :
    partsOf occur (parts ++ others) = partsOf occur parts ++ partsOf occur others := by
  rw [partsOf, List.filter_append, List.map_append]
  rfl

theorem partsOf_map_self (occur : Occur) (plans : List Plan) :
    partsOf occur (plans.map fun p => (occur, p)) = plans := by
  rw [partsOf, List.filter_eq_self.mpr (by simp), List.map_map]
  exact List.map_id plans

theorem partsOf_map_of_ne {occur other : Occur} (h : other ≠ occur) (plans : List Plan) :
    partsOf occur (plans.map fun p => (other, p)) = [] := by
  simp [partsOf, h]

section

variable {a : Analyzer} (d : Document)

theorem verdictsOf_partVerdicts (occur : Occur) (parts : List (Occur × Plan)) :
    verdictsOf occur (partVerdicts d parts) = (partsOf occur parts).map (·.holds d) := by
  rw [partVerdicts_eq_map, verdictsOf, List.filter_map, partsOf, List.map_map, List.map_map]
  rfl

/-- A boolean plan whose parts come sort by sort. -/
theorem holds_boolean (must should mustNot : List Plan) :
    (Plan.boolean (must.map (fun p => (Occur.must, p)) ++ should.map (fun p => (Occur.should, p)) ++
      mustNot.map fun p => (Occur.mustNot, p))).holds d =
      (must.all (·.holds d) && mustNot.all (!·.holds d) &&
        (!must.isEmpty || should.any (·.holds d))) := by
  simp (disch := decide) only [Plan.holds, partsHold, verdictsOf_partVerdicts, partsOf_append,
    partsOf_map_self, partsOf_map_of_ne, List.append_nil, List.nil_append, List.all_map,
    List.any_map, List.isEmpty_map]
  rfl

/-- Parts that stay apart. With neither `must` nor `should` parts the anchor stands in for what is
required. -/
theorem holds_apart (required optional excluded : List Plan) :
    (Plan.boolean (required.map (fun p => (Occur.must, p)) ++
      (if required.isEmpty && optional.isEmpty then [(Occur.must, Plan.all)] else []) ++
      optional.map (fun p => (Occur.should, p)) ++
      excluded.map fun p => (Occur.mustNot, p))).holds d =
      (required.all (·.holds d) && excluded.all (!·.holds d) &&
        (!required.isEmpty || optional.isEmpty || optional.any (·.holds d))) := by
  have hanchor : required.map (fun p => (Occur.must, p)) ++
      (if required.isEmpty && optional.isEmpty then [(Occur.must, Plan.all)] else []) =
      (required ++ if required.isEmpty && optional.isEmpty then [Plan.all] else []).map
        fun p => (Occur.must, p) := by
    rw [List.map_append]
    split <;> rfl
  rw [hanchor, holds_boolean]
  cases required <;> cases optional <;> simp [Plan.holds]

/-- Parts of which a positive number of the `should` parts is one required part. -/
theorem holds_joined {minimum : Nat} (hmin : minimum ≠ 0) (required optional excluded : List Plan) :
    (Plan.boolean (required.map (fun p => (Occur.must, p)) ++
      [(Occur.must, Plan.atLeast minimum optional)] ++
      excluded.map fun p => (Occur.mustNot, p))).holds d =
      (required.all (·.holds d) && excluded.all (!·.holds d) &&
        decide (minimum ≤ (optional.map (·.holds d)).count true)) := by
  have hparts : required.map (fun p => (Occur.must, p)) ++
      [(Occur.must, Plan.atLeast minimum optional)] =
      (required ++ [Plan.atLeast minimum optional]).map (fun p => (Occur.must, p)) ++
        ([] : List Plan).map fun p => (Occur.should, p) := by
    rw [List.map_append, List.map_nil, List.append_nil]
    rfl
  have hmax : max 1 minimum = minimum := by omega
  have hsome : (required ++ [Plan.atLeast minimum optional]).isEmpty = false := by
    cases required <;> rfl
  rw [hparts, holds_boolean, List.all_append, List.all_cons, Plan.holds, planVerdicts_eq_map, hmax]
  simp [hsome, Bool.and_right_comm]

/-- Joining planned clauses means what the clauses mean together. -/
theorem holds_ofClauses (minimum : Nat) (parts : List (Occur × Plan)) :
    (Plan.ofClauses minimum parts).holds d = clausesHold minimum (partVerdicts d parts) := by
  unfold Plan.ofClauses
  by_cases hempty : parts.isEmpty
  · rw [if_pos hempty, List.isEmpty_iff.mp hempty]
    rfl
  · have hverdicts : (partVerdicts d parts).isEmpty = false := by
      rw [partVerdicts_eq_map, List.isEmpty_map]
      exact Bool.not_eq_true _ ▸ hempty
    rw [if_neg hempty]
    simp only [clausesHold, hverdicts, verdictsOf_partVerdicts, List.all_map, List.any_map,
      List.isEmpty_map, Bool.not_false, Bool.true_and]
    by_cases hzero : minimum = 0
    · rw [if_pos hzero, if_pos hzero, holds_apart]
      rfl
    · rw [if_neg hzero, if_neg hzero, holds_joined d hzero]
      rfl

theorem holds_ofText {field text : String} {plan : Plan} (h : Plan.ofText a field text = .ok plan) :
    plan.holds d = (Query.text field text).holds a d := by
  obtain ⟨f, hf, h⟩ := bind_eq_ok_iff.mp h
  obtain ⟨tokens, ht, h⟩ := bind_eq_ok_iff.mp h
  cases h
  have hparts : (tokens.map fun token => (Occur.should, Plan.term f token)) =
      ([] : List Plan).map (fun p => (Occur.must, p)) ++
        (tokens.map (Plan.term f)).map (fun p => (Occur.should, p)) ++
        ([] : List Plan).map fun p => (Occur.mustNot, p) := by
    rw [List.map_map, List.map_nil, List.map_nil, List.nil_append, List.append_nil]
    rfl
  rw [hparts, holds_boolean]
  simp only [Query.holds, resolve_eq_ok_iff.mp hf, ht, List.any_map, Function.comp_def, Plan.holds]
  rfl

theorem holds_ofRange {r : Range} {plan : Plan} (h : Plan.ofRange r = .ok plan) :
    plan.holds d = (Query.range r).holds a d := by
  obtain ⟨_, _, h⟩ := bind_eq_ok_iff.mp h
  obtain ⟨f, hf, h⟩ := bind_eq_ok_iff.mp h
  obtain ⟨lower, hlower, h⟩ := bind_eq_ok_iff.mp h
  obtain ⟨upper, hupper, h⟩ := bind_eq_ok_iff.mp h
  cases h
  simp only [Query.holds, resolve_eq_ok_iff.mp hf, hlower, hupper, Plan.holds, encloses_eq_spans]

mutual
/-- The plan of a query matches the documents that the query means. -/
theorem holds_ofQuery : (q : Query) → {plan : Plan} → Plan.ofQuery a q = .ok plan →
    plan.holds d = q.holds a d
  | .matchAll, _, h => by
      cases h
      rfl
  | .term field t, _, h => by
      obtain ⟨f, hf, h⟩ := bind_eq_ok_iff.mp h
      obtain ⟨token, htoken, h⟩ := bind_eq_ok_iff.mp h
      cases h
      simp only [Query.holds, resolve_eq_ok_iff.mp hf, htoken, Plan.holds]
  | .text _ _, _, h => holds_ofText d h
  | .boolean clauses minimum, _, h => by
      obtain ⟨parts, hparts, h⟩ := bind_eq_ok_iff.mp h
      cases h
      rw [holds_ofClauses, verdicts_planClauses clauses hparts, Query.holds]
  | .constantScore q _, _, h => by
      obtain ⟨plan, hplan, h⟩ := bind_eq_ok_iff.mp h
      cases h
      rw [Plan.holds, Query.holds, holds_ofQuery q hplan]
  | .boosted q _, _, h => by
      obtain ⟨plan, hplan, h⟩ := bind_eq_ok_iff.mp h
      cases h
      rw [Plan.holds, Query.holds, holds_ofQuery q hplan]
  | .range _, _, h => holds_ofRange d h

theorem verdicts_planClauses : (clauses : List (Occur × Query)) → {parts : List (Occur × Plan)} →
    planClauses a clauses = .ok parts → partVerdicts d parts = clauseVerdicts a d clauses
  | [], _, h => by
      cases h
      rfl
  | (occur, q) :: rest, _, h => by
      obtain ⟨plan, hplan, h⟩ := bind_eq_ok_iff.mp h
      obtain ⟨parts, hparts, h⟩ := bind_eq_ok_iff.mp h
      cases h
      rw [partVerdicts, clauseVerdicts, holds_ofQuery q hplan, verdicts_planClauses rest hparts]
end

end

/-! ## Walking the cursor of a query -/

def Cursor.visited (c : Cursor) : List Nat :=
  if _h : c.doc = noMoreDocs then [] else c.doc :: c.advance.visited
termination_by c.entries.length
decreasing_by
  have hpos := List.length_pos_iff.mpr (Cursor.entries_ne_nil_of_doc_ne _h)
  have hlen : c.advance.entries.length = c.entries.length - 1 := by simp [Cursor.advance]
  omega

/-- Advancing visits every document still to come, when none is behind the last match. -/
theorem Cursor.Ordered.visited_eq {c : Cursor} (h : c.Ordered) : c.visited = c.docs := by
  induction hdocs : c.docs generalizing c with
  | nil => rw [visited, dif_pos (doc_eq_noMoreDocs hdocs)]
  | cons d rest ih =>
      have hdoc := doc_eq_head hdocs
      have hlt : d < noMoreDocs := h.bounded d (by rw [hdocs]; exact List.mem_cons_self)
      have hrest : c.advance.docs = rest := by rw [docs_advance, hdocs, List.tail_cons]
      rw [visited, dif_neg (by omega), hdoc, ih h.advance hrest]

/-- The cursor of a planned query visits, in increasing order, exactly the documents that the
query means, under every boost. Documents are numbered below the place behind the last match. -/
theorem visited_iff_holds {a : Analyzer} {q : Query} {plan : Plan}
    (hplan : Plan.ofQuery a q = .ok plan) {s : Segment} (hs : s.length ≤ noMoreDocs)
    (boost : Float32) :
    (plan.cursor s boost).visited.Pairwise (· < ·) ∧
      ∀ doc, doc ∈ (plan.cursor s boost).visited ↔ ∃ d, s[doc]? = some d ∧ q.holds a d = true := by
  have hfinds := plan.cursor_finds hs boost
  rw [(hfinds.ordered hs).visited_eq]
  refine ⟨hfinds.increasing, fun doc => ?_⟩
  rw [hfinds.exact doc]
  simp only [holds_ofQuery _ q hplan]

def Query.twoOfThree : Query :=
  .boolean [(.should, .term "isbn" (.string "a")), (.should, .term "isbn" (.string "b")),
    (.should, .boolean [(.mustNot, .term "isbn" (.string "c"))] 0)] 2

theorem visited_of_twoOfThree :
    ∃ plan, Plan.ofQuery ⟨none⟩ Query.twoOfThree = .ok plan ∧
      0 ∈ (plan.cursor [.make Analysis.Stem.ofWord [] ["a"],
        .make Analysis.Stem.ofWord [] ["a", "c"]] 1.0).visited ∧
      1 ∉ (plan.cursor [.make Analysis.Stem.ofWord [] ["a"],
        .make Analysis.Stem.ofWord [] ["a", "c"]] 1.0).visited := by
  obtain ⟨plan, hplan⟩ : ∃ plan, Plan.ofQuery ⟨none⟩ Query.twoOfThree = .ok plan := ⟨_, rfl⟩
  have hvisited := (visited_iff_holds hplan
    (s := [.make Analysis.Stem.ofWord [] ["a"], .make Analysis.Stem.ofWord [] ["a", "c"]])
    (by decide) 1.0).2
  refine ⟨plan, hplan, (hvisited 0).mpr ⟨_, rfl, rfl⟩, fun h => ?_⟩
  obtain ⟨d, hd, hholds⟩ := (hvisited 1).mp h
  cases hd
  cases hholds

end Catalogue
