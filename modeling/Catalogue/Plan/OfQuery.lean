import Catalogue.Plan.Basic
import Catalogue.Query.Outline

/-!
# Planning a query

Fields are looked up by name, terms are rendered as texts, text is analyzed as its field is. The
first problem in reading order is reported.
-/

namespace Catalogue

/-- Why a query has no plan. -/
inductive PlanError where
  | unknownField (name : String)
  | notAnalyzed (field : String)
  | unknownTokenizer (field tokenizer : String)
  | unrenderableTerm (field : String) (kind : Term.Kind)
  | illFormed (e : QueryError)
  deriving DecidableEq

/-- The message for a query without a plan. -/
def PlanError.message : PlanError → String
  | unknownField name => s!"unknown field '{name}'"
  | notAnalyzed field => s!"field '{field}' is not an analyzed text field"
  | unknownTokenizer field tokenizer =>
    s!"field '{field}' uses tokenizer '{tokenizer}', which is not registered"
  | unrenderableTerm field kind =>
    s!"a {kind.name} term cannot be looked up in field '{field}'"
  | illFormed e => e.message

/-- The text of a term in the index: a string is itself, a number is in plain decimal, and a place
has no text. -/
def Term.render (field : String) : Term → Except PlanError String
  | string s => .ok s
  | number x => .ok (Decimal.plain x)
  | boolean b => .ok (if b then "true" else "false")
  | point _ => .error (.unrenderableTerm field .point)

/-- Looks a field up. -/
def Field.resolve (name : String) : Except PlanError Field :=
  match Field.ofName? name with
  | some f => .ok f
  | none => .error (.unknownField name)

/-- The tokens of a text in a field. -/
def Analyzer.analyze (a : Analyzer) (field text : String) : Except PlanError (List String) := do
  let f ← Field.resolve field
  match f.tokenizer? with
  | none => .error (.notAnalyzed field)
  | some t =>
    match a.tokens? t text with
    | none => .error (.unknownTokenizer field t.name)
    | some tokens => return tokens

/-- The plan of analyzed text: any of its tokens. -/
def Plan.ofText (a : Analyzer) (field text : String) : Except PlanError Plan := do
  let f ← Field.resolve field
  let tokens ← a.analyze field text
  return .boolean (tokens.map fun token => (.should, .term f token))

/-- The plan of a range. Its bounds must be of one kind. -/
def Plan.ofRange (r : Range) : Except PlanError Plan := do
  let _ ← (Range.make r.field r.lower r.upper r.includeLower r.includeUpper).mapError .illFormed
  let f ← Field.resolve r.field
  let lower ← r.lower.render r.field
  let upper ← r.upper.render r.field
  return .range f ⟨lower, r.includeLower⟩ ⟨upper, r.includeUpper⟩

/-- The parts of one sort, in order. -/
def partsOf (occur : Occur) (parts : List (Occur × Plan)) : List Plan :=
  (parts.filter fun p => p.1 = occur).map Prod.snd

/-- Joins planned clauses. A positive minimum makes one required part of the `should` clauses.
Without one they stay apart, and `mustNot` clauses alone are taken from all documents. -/
def Plan.ofClauses (minimum : Nat) (parts : List (Occur × Plan)) : Plan :=
  if parts.isEmpty then .none
  else
    let required := partsOf .must parts
    let optional := partsOf .should parts
    let excluded := (partsOf .mustNot parts).map fun p => (Occur.mustNot, p)
    let required' := required.map fun p => (Occur.must, p)
    if minimum = 0 then
      let anchor := if required.isEmpty && optional.isEmpty then [(Occur.must, Plan.all)] else []
      .boolean (required' ++ anchor ++ optional.map (fun p => (Occur.should, p)) ++ excluded)
    else .boolean (required' ++ [(Occur.must, .atLeast minimum optional)] ++ excluded)

mutual
/-- The plan of a query. -/
def Plan.ofQuery (a : Analyzer) : Query → Except PlanError Plan
  | .matchAll => .ok .all
  | .term field t => do
    let f ← Field.resolve field
    let token ← t.render field
    return .term f token
  | .text field s => Plan.ofText a field s
  | .boolean clauses minimum => do
    let parts ← planClauses a clauses
    return Plan.ofClauses minimum.toNat parts
  | .constantScore q boost => do
    let plan ← Plan.ofQuery a q
    return .constant plan boost
  | .boosted q boost => do
    let plan ← Plan.ofQuery a q
    return .boost plan boost
  | .range r => Plan.ofRange r

/-- The plans of clauses, in declaration order. -/
def planClauses (a : Analyzer) : List (Occur × Query) → Except PlanError (List (Occur × Plan))
  | [] => .ok []
  | (occur, q) :: rest => do
    let plan ← Plan.ofQuery a q
    let parts ← planClauses a rest
    return (occur, plan) :: parts
end

end Catalogue
