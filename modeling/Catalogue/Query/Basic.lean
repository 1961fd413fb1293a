/-!
# Queries

A query is a finite tree that says which documents match and how the matches of its parts weigh
in. It names fields and literal values, and knows nothing of the index.
-/

namespace Catalogue

/-- A place on the globe, in degrees. -/
structure Point where
  latitude : Float
  longitude : Float
  deriving DecidableEq

/-- A literal value to look up. -/
inductive Term where
  | string (s : String)
  | number (x : Float)
  | boolean (b : Bool)
  | point (p : Point)
  deriving DecidableEq

/-- What sort of value a term holds. -/
inductive Term.Kind where
  | string
  | number
  | boolean
  | point
  deriving DecidableEq, Repr

/-- The sort of value a term holds. -/
def Term.kind : Term → Term.Kind
  | string _ => .string
  | number _ => .number
  | boolean _ => .boolean
  | point _ => .point

/-- The name of a sort of value. -/
def Term.Kind.name : Term.Kind → String
  | string => "string"
  | number => "number"
  | boolean => "boolean"
  | point => "point"

/-- All values of a field between two bounds of the same kind. -/
structure Range where
  field : String
  lower : Term
  upper : Term
  includeLower : Bool
  includeUpper : Bool
  same_kind : lower.kind = upper.kind
  deriving DecidableEq

/-- Why a query cannot be formed: a range between bounds of different kinds. -/
inductive QueryError where
  | rangeKindMismatch (field : String) (lower upper : Term.Kind)
  deriving DecidableEq

/-- The message for an ill-formed query. -/
def QueryError.message : QueryError → String
  | rangeKindMismatch field lower upper =>
    s!"range on field '{field}' mixes a {lower.name} lower bound with a {upper.name} upper bound"

/-- Forms a range, if its bounds are of the same kind. -/
def Range.make (field : String) (lower upper : Term) (includeLower includeUpper : Bool) :
    Except QueryError Range :=
  if h : lower.kind = upper.kind then .ok ⟨field, lower, upper, includeLower, includeUpper, h⟩
  else .error (.rangeKindMismatch field lower.kind upper.kind)

/-- The part a clause plays in a boolean query. -/
inductive Occur where
  | should
  | must
  | mustNot
  deriving DecidableEq, Repr

/-- A query.

* `matchAll`: every document.
* `term`: the documents whose field holds exactly this term.
* `text`: the documents whose field holds any token of an analyzed text.
* `boolean`: the documents that match every `must` clause, no `mustNot` clause, and at least
  `minimum` of the `should` clauses. With a minimum of zero those are optional beside a `must`
  clause; without one, a document still has to match one of them, if there are any. Without any
  clauses nothing matches.
* `constantScore`: the matches of a query, each scored `boost`.
* `boosted`: the matches of a query, its scores multiplied by `boost`.
* `range`: the documents whose field holds a value between two bounds. -/
inductive Query where
  | matchAll
  | term (field : String) (term : Term)
  | text (field : String) (text : String)
  | boolean (clauses : List (Occur × Query)) (minimum : UInt64)
  | constantScore (query : Query) (boost : Float32)
  | boosted (query : Query) (boost : Float32)
  | range (range : Range)

/-! ## Equality of queries -/

mutual
/-- Whether two queries are the same. -/
def Query.same : Query → Query → Bool
  | .matchAll, .matchAll => true
  | .term field t, .term field' t' => field = field' && t = t'
  | .text field s, .text field' s' => field = field' && s = s'
  | .boolean clauses minimum, .boolean clauses' minimum' =>
    sameClauses clauses clauses' && minimum = minimum'
  | .constantScore q boost, .constantScore q' boost' => q.same q' && boost = boost'
  | .boosted q boost, .boosted q' boost' => q.same q' && boost = boost'
  | .range r, .range r' => r = r'
  | _, _ => false

/-- Whether two lists of clauses are the same. -/
def sameClauses : List (Occur × Query) → List (Occur × Query) → Bool
  | [], [] => true
  | (occur, q) :: rest, (occur', q') :: rest' =>
    occur = occur' && q.same q' && sameClauses rest rest'
  | _, _ => false
end

mutual
theorem Query.same_self : (q : Query) → q.same q = true
  | .matchAll => rfl
  | .term .. | .text .. | .range _ => by simp [Query.same]
  | .boolean clauses _ => by simp [Query.same, sameClauses_self clauses]
  | .constantScore q _ | .boosted q _ => by simp [Query.same, q.same_self]

theorem sameClauses_self : (clauses : List (Occur × Query)) → sameClauses clauses clauses = true
  | [] => rfl
  | (_, q) :: rest => by simp [sameClauses, q.same_self, sameClauses_self rest]
end

mutual
theorem Query.eq_of_same : {q r : Query} → q.same r = true → q = r
  | .matchAll, r, h => by
      cases r <;> simp_all [Query.same]
  | .term .., r, h => by
      cases r <;> simp_all [Query.same]
  | .text .., r, h => by
      cases r <;> simp_all [Query.same]
  | .boolean clauses _, r, h => by
      cases r with
      | boolean clauses' _ =>
          simp only [Query.same, Bool.and_eq_true, decide_eq_true_eq] at h
          rw [eq_of_sameClauses h.1, h.2]
      | _ => simp [Query.same] at h
  | .constantScore q _, r, h => by
      cases r with
      | constantScore q' _ =>
          simp only [Query.same, Bool.and_eq_true, decide_eq_true_eq] at h
          rw [Query.eq_of_same h.1, h.2]
      | _ => simp [Query.same] at h
  | .boosted q _, r, h => by
      cases r with
      | boosted q' _ =>
          simp only [Query.same, Bool.and_eq_true, decide_eq_true_eq] at h
          rw [Query.eq_of_same h.1, h.2]
      | _ => simp [Query.same] at h
  | .range _, r, h => by
      cases r <;> simp_all [Query.same]

theorem eq_of_sameClauses : {clauses clauses' : List (Occur × Query)} →
    sameClauses clauses clauses' = true → clauses = clauses'
  | [], [], _ => rfl
  | [], _ :: _, h | _ :: _, [], h => by simp [sameClauses] at h
  | (occur, q) :: rest, (occur', q') :: rest', h => by
      simp only [sameClauses, Bool.and_eq_true, decide_eq_true_eq] at h
      rw [h.1.1, Query.eq_of_same h.1.2, eq_of_sameClauses h.2]
end

instance : DecidableEq Query := fun q r =>
  decidable_of_iff (q.same r = true) ⟨Query.eq_of_same, fun h => h ▸ q.same_self⟩

/-! Only bounds of one kind form a range. -/

theorem Range.make_of_kind_eq {field : String} {lower upper : Term} {il iu : Bool}
    (h : lower.kind = upper.kind) :
    Range.make field lower upper il iu = .ok ⟨field, lower, upper, il, iu, h⟩ := by
  simp [Range.make, h]

theorem Range.make_of_kind_ne {field : String} {lower upper : Term} {il iu : Bool}
    (h : lower.kind ≠ upper.kind) :
    Range.make field lower upper il iu =
      .error (.rangeKindMismatch field lower.kind upper.kind) := by
  simp [Range.make, h]

end Catalogue
