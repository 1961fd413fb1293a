import Catalogue.Plan.OfQuery
import Catalogue.Proofs.Outcome

/-! # Which queries have no plan

A query has no plan if one of its nodes cannot be planned, whatever part that node plays in
matching. The failure is the one of the first such node in the order in which the query is
written: a node before what is below it, clauses in declaration order. -/

namespace Catalogue

mutual
/-- The nodes of a query: the query itself, then those below it. -/
def Query.nodes : Query → List Query
  | .matchAll => [.matchAll]
  | .term field t => [.term field t]
  | .text field s => [.text field s]
  | .boolean clauses minimum => .boolean clauses minimum :: clauseNodes clauses
  | .constantScore q boost => .constantScore q boost :: q.nodes
  | .boosted q boost => .boosted q boost :: q.nodes
  | .range r => [.range r]

def clauseNodes : List (Occur × Query) → List Query
  | [] => []
  | (_, q) :: rest => q.nodes ++ clauseNodes rest
end

def Query.field? : Query → Option String
  | .term field _ | .text field _ => some field
  | .range r => some r.field
  | .matchAll | .boolean _ _ | .constantScore _ _ | .boosted _ _ => none

def Query.terms : Query → List Term
  | .term _ t => [t]
  | .range r => [r.lower, r.upper]
  | .matchAll | .text _ _ | .boolean _ _ | .constantScore _ _ | .boosted _ _ => []

/-- A node that cannot be planned: it looks in a field that does not exist, or looks a place up, or
looks for text in titles while their tokenizer is not registered. -/
inductive Query.Offends (a : Analyzer) : Query → Prop where
  | unknown {node : Query} {field : String} (hfield : node.field? = some field)
      (h : ∀ f : Field, f.name ≠ field) : Offends a node
  | place {node : Query} {t : Term} (ht : t ∈ node.terms) (h : t.kind = .point) : Offends a node
  | unregistered {text : String} (h : a.stemmer = none) : Offends a (.text "title" text)

/-- How planning fails at a node. That its field does not exist comes before anything else. -/
inductive Query.FailsWith (a : Analyzer) : Query → PlanError → Prop where
  | unknown {node : Query} {field : String} (hfield : node.field? = some field)
      (h : ∀ f : Field, f.name ≠ field) : FailsWith a node (.unknownField field)
  | place {node : Query} {f : Field} {t : Term} (hfield : node.field? = some f.name)
      (ht : t ∈ node.terms) (h : t.kind = .point) :
      FailsWith a node (.unrenderableTerm f.name .point)
  | unregistered {text : String} (h : a.stemmer = none) :
      FailsWith a (.text "title" text) (.unknownTokenizer "title" "quarry_text")

section

variable {a : Analyzer} {node : Query}

theorem Query.exists_field_of_mem_terms {t : Term} (h : t ∈ node.terms) :
    ∃ field, node.field? = some field := by
  cases node with
  | term field _ => exact ⟨field, rfl⟩
  | range r => exact ⟨r.field, rfl⟩
  | matchAll | text | boolean | constantScore | boosted => exact absurd h List.not_mem_nil

/-- A node offends if planning fails at it in some way. -/
theorem Query.offends_iff : node.Offends a ↔ ∃ e, node.FailsWith a e := by
  constructor
  · intro h
    cases h with
    | unknown hfield h => exact ⟨_, .unknown hfield h⟩
    | place ht h =>
        obtain ⟨field, hfield⟩ := exists_field_of_mem_terms ht
        by_cases hknown : ∃ f : Field, f.name = field
        · obtain ⟨f, rfl⟩ := hknown
          exact ⟨_, .place hfield ht h⟩
        · exact ⟨_, .unknown hfield (not_exists.mp hknown)⟩
    | unregistered h => exact ⟨_, .unregistered h⟩
  · rintro ⟨e, h⟩
    cases h with
    | unknown hfield h => exact .unknown hfield h
    | place _ ht h => exact .place ht h
    | unregistered h => exact .unregistered h

end

/-! ## The parts of a node -/

theorem resolve_name (f : Field) : Field.resolve f.name = .ok f := by
  rw [Field.resolve, Field.ofName?_name]

theorem resolve_unknown {name : String} (h : ∀ f : Field, f.name ≠ name) :
    Field.resolve name = .error (.unknownField name) := by
  rw [Field.resolve, Field.ofName?_eq_none_iff.mpr h]

theorem errorOf?_render (field : String) (t : Term) :
    errorOf? (t.render field) =
      if t.kind = .point then some (.unrenderableTerm field .point) else none := by
  cases t <;> rfl

theorem errorOf?_analyze (a : Analyzer) (f : Field) (text : String) :
    errorOf? (a.analyze f.name text) =
      if f = .title ∧ a.stemmer = none then some (.unknownTokenizer "title" "quarry_text")
      else none := by
  rw [Analyzer.analyze, resolve_name, ok_bind]
  cases f with
  | isbn => rfl
  | title => cases hl : a.stemmer <;> simp [Field.tokenizer?, Analyzer.tokens?, hl] <;> rfl

/-- The bounds of a range are of one kind, so that it can be formed once more. -/
theorem Range.make_self (r : Range) :
    Range.make r.field r.lower r.upper r.includeLower r.includeUpper = .ok r :=
  Range.make_of_kind_eq r.same_kind

/-! ## Planning node by node -/

/-- How planning fails at a node itself: its field is looked up before its terms and its text. -/
def Query.fault? (a : Analyzer) : Query → Option PlanError
  | .term field t => (errorOf? (Field.resolve field)).or (errorOf? (t.render field))
  | .text field s => (errorOf? (Field.resolve field)).or (errorOf? (a.analyze field s))
  | .range r =>
    (errorOf? (Field.resolve r.field)).or
      ((errorOf? (r.lower.render r.field)).or (errorOf? (r.upper.render r.field)))
  | .matchAll | .boolean _ _ | .constantScore _ _ | .boosted _ _ => none

section

variable {a : Analyzer} {node : Query} {e : PlanError}

theorem Query.fault?_fieldless (hfield : node.field? = none) : node.fault? a = none := by
  cases node with
  | term | text | range => cases hfield
  | matchAll | boolean | constantScore | boosted => rfl

theorem Query.fault?_unknown {field : String} (hfield : node.field? = some field)
    (h : ∀ f : Field, f.name ≠ field) : node.fault? a = some (.unknownField field) := by
  cases node with
  | term | text | range =>
      cases hfield
      rw [fault?, resolve_unknown h]
      rfl
  | matchAll | boolean | constantScore | boosted => cases hfield

/-- In a field that exists, a node fails for a place or for the tokenizer of titles. -/
theorem Query.fault?_known {f : Field} (hfield : node.field? = some f.name) :
    node.fault? a = some e ↔
      (∃ t ∈ node.terms, t.kind = .point) ∧ e = .unrenderableTerm f.name .point ∨
        (∃ text, node = .text "title" text) ∧ a.stemmer = none ∧
          e = .unknownTokenizer "title" "quarry_text" := by
  cases node with
  | term field t =>
      cases hfield
      rw [fault?, resolve_name, errorOf?_ok, Option.none_or, errorOf?_render]
      simp [terms, eq_comm]
  | text field s =>
      cases hfield
      rw [fault?, resolve_name, errorOf?_ok, Option.none_or, errorOf?_analyze]
      cases f <;> simp [terms, Field.name, eq_comm]
  | range r =>
      -- Both bounds are places or neither is: it makes no difference which is rendered first.
      have hkinds : r.upper.kind = r.lower.kind := r.same_kind.symm
      rw [Query.field?, Option.some_inj] at hfield
      rw [fault?, hfield, resolve_name, errorOf?_ok, Option.none_or, errorOf?_render,
        errorOf?_render, hkinds]
      simp [terms, hkinds, eq_comm]
  | matchAll | boolean | constantScore | boosted => cases hfield

theorem Query.fault?_eq_some_iff : node.fault? a = some e ↔ node.FailsWith a e := by
  constructor
  · intro h
    cases hfield : node.field? with
    | none =>
        rw [fault?_fieldless hfield] at h
        cases h
    | some field =>
        by_cases hknown : ∃ f : Field, f.name = field
        · obtain ⟨f, rfl⟩ := hknown
          rcases (fault?_known hfield).mp h with ⟨⟨t, ht, hpoint⟩, rfl⟩ | ⟨⟨text, rfl⟩, hl, rfl⟩
          · exact .place hfield ht hpoint
          · exact .unregistered hl
        · rw [fault?_unknown hfield (not_exists.mp hknown)] at h
          cases h
          exact .unknown hfield (not_exists.mp hknown)
  · intro h
    cases h with
    | unknown hfield h => exact fault?_unknown hfield h
    | place hfield ht h => exact (fault?_known hfield).mpr (.inl ⟨⟨_, ht, h⟩, rfl⟩)
    | unregistered h =>
        exact (fault?_known (f := .title) rfl).mpr (.inr ⟨⟨_, rfl⟩, h, rfl⟩)

theorem Query.fault?_isSome_iff : (node.fault? a).isSome ↔ node.Offends a := by
  rw [Option.isSome_iff_exists, offends_iff]
  exact exists_congr fun e => fault?_eq_some_iff

theorem Query.fault?_eq_none_iff : node.fault? a = none ↔ ¬ node.Offends a := by
  rw [← fault?_isSome_iff, Option.not_isSome_iff_eq_none]

end

section

variable (a : Analyzer)

theorem errorOf?_ofText (field text : String) :
    errorOf? (Plan.ofText a field text) = (Query.text field text).fault? a := by
  rw [Plan.ofText, Query.fault?]
  exact errorOf?_bind fun f _ => errorOf?_bind_pure _ _

theorem errorOf?_ofRange (r : Range) :
    errorOf? (Plan.ofRange r) = (Query.range r).fault? a := by
  rw [Plan.ofRange, mapError_eq_ok_iff.mpr r.make_self, ok_bind, Query.fault?]
  refine errorOf?_bind fun f _ => ?_
  exact errorOf?_bind fun lower _ => errorOf?_bind_pure _ _

mutual
/-- Planning fails as the first node that cannot be planned. -/
theorem errorOf?_ofQuery : (q : Query) →
    errorOf? (Plan.ofQuery a q) = q.nodes.findSome? (Query.fault? a)
  | .matchAll => rfl
  | .term field t => by
      rw [Plan.ofQuery, Query.nodes, List.findSome?_singleton, Query.fault?]
      exact errorOf?_bind fun f _ => errorOf?_bind_pure _ _
  | .text field s => by
      rw [Plan.ofQuery, Query.nodes, List.findSome?_singleton, errorOf?_ofText]
  | .boolean clauses minimum => by
      rw [Plan.ofQuery, Query.nodes, List.findSome?_cons, Query.fault?, errorOf?_bind_pure,
        errorOf?_planClauses clauses]
  | .constantScore q boost | .boosted q boost => by
      rw [Plan.ofQuery, Query.nodes, List.findSome?_cons, Query.fault?, errorOf?_bind_pure,
        errorOf?_ofQuery q]
  | .range r => by
      rw [Plan.ofQuery, Query.nodes, List.findSome?_singleton, errorOf?_ofRange]

theorem errorOf?_planClauses : (clauses : List (Occur × Query)) →
    errorOf? (planClauses a clauses) = (clauseNodes clauses).findSome? (Query.fault? a)
  | [] => rfl
  | (occur, q) :: rest => by
      rw [planClauses, clauseNodes, List.findSome?_append, ← errorOf?_ofQuery q,
        ← errorOf?_planClauses rest]
      exact errorOf?_bind fun plan _ => errorOf?_bind_pure _ _
end

/-- Planning fails exactly if a node of the query offends, anywhere in it and whatever its part in
matching, with the failure of the first node that does. It never meets a range with bounds of
different kinds, nor a field without analysis. -/
theorem ofQuery_fails_at_first_offence (q : Query) :
    ((∃ e, Plan.ofQuery a q = .error e) ↔ ∃ node ∈ q.nodes, node.Offends a) ∧
      (∀ e, Plan.ofQuery a q = .error e ↔
        ∃ before node after, q.nodes = before ++ node :: after ∧
          (∀ earlier ∈ before, ¬ earlier.Offends a) ∧ node.FailsWith a e) ∧
      (∀ mismatch, Plan.ofQuery a q ≠ .error (.illFormed mismatch)) ∧
      ∀ field, Plan.ofQuery a q ≠ .error (.notAnalyzed field) := by
  have hfails : (∃ e, Plan.ofQuery a q = .error e) ↔ ∃ node ∈ q.nodes, node.Offends a := by
    simp only [← errorOf?_eq_some_iff, ← Option.isSome_iff_exists, errorOf?_ofQuery,
      List.findSome?_isSome_iff, Query.fault?_isSome_iff]
  have hfirst : ∀ e, Plan.ofQuery a q = .error e ↔
      ∃ before node after, q.nodes = before ++ node :: after ∧
        (∀ earlier ∈ before, ¬ earlier.Offends a) ∧ node.FailsWith a e := by
    intro e
    rw [← errorOf?_eq_some_iff, errorOf?_ofQuery, List.findSome?_eq_some_iff]
    simp only [Query.fault?_eq_some_iff, Query.fault?_eq_none_iff, and_comm]
  refine ⟨hfails, hfirst, fun mismatch h => ?_, fun field h => ?_⟩
  · obtain ⟨_, _, _, _, _, hnode⟩ := (hfirst _).mp h
    cases hnode
  · obtain ⟨_, _, _, _, _, hnode⟩ := (hfirst _).mp h
    cases hnode

end

/-- A clause that only excludes is planned too, and before the one written behind it. -/
example : Plan.ofQuery ⟨none⟩ (.boolean [(.should, .matchAll),
    (.mustNot, .term "author" (.string "knuth")), (.must, .text "title" "algorithms")] 0) =
    .error (.unknownField "author") := by
  rfl

end Catalogue
