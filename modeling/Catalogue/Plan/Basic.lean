import Catalogue.Decimal.Layout
import Catalogue.Field
import Catalogue.Query.Basic
import Catalogue.Text.Quoted

/-!
# Search plans

A plan is a query in terms of the index: fields are resolved, terms are texts, analyzed text is a
choice between tokens.
-/

namespace Catalogue

/-- One end of a range of tokens. -/
structure Bound where
  text : String
  included : Bool
  deriving DecidableEq, Repr

/-- A search plan.

* `all`, `none`: every document, and no document.
* `term`: the documents with a token.
* `boolean`: the documents that match every `must` part, no `mustNot` part and, if there is no
  `must` part, at least one `should` part.
* `atLeast`: the documents that match at least `max 1 minimum` of the parts, counted with
  repetition.
* `constant`: the matches of a plan, each scored `score`.
* `boost`: the matches of a plan, its scores multiplied by `factor`.
* `range`: the documents with a token between two bounds, by the order of bytes. -/
inductive Plan where
  | all
  | none
  | term (field : Field) (token : String)
  | boolean (parts : List (Occur × Plan))
  | atLeast (minimum : Nat) (parts : List Plan)
  | constant (plan : Plan) (score : Float32)
  | boost (plan : Plan) (factor : Float32)
  | range (field : Field) (lower upper : Bound)

/-- The name of a part a clause plays. -/
def Occur.name : Occur → String
  | should => "Should"
  | must => "Must"
  | mustNot => "MustNot"

/-- A bound as text: the bytes of its token. -/
def Bound.describe (b : Bound) : String :=
  let bytes := b.text.toUTF8.toList.map fun byte => Decimal.natural byte.toNat
  (if b.included then "Included" else "Excluded") ++ "([" ++ ", ".intercalate bytes ++ "])"

mutual
/-- A plan as text. -/
def Plan.describe : Plan → String
  | .all => "AllQuery"
  | .none => "EmptyQuery"
  | .term field token =>
    s!"TermQuery(Term(field={Decimal.natural field.number}, type=Str, {Text.quoted token}))"
  | .boolean parts =>
    "BooleanQuery \x7b subqueries: [" ++ ", ".intercalate (describeClauses parts) ++ "] \x7d"
  | .atLeast minimum parts =>
    "MinimumShouldMatchQuery \x7b subqueries: [" ++ ", ".intercalate (describeAll parts) ++
      s!"], minimum: {Decimal.natural minimum} \x7d"
  | .constant plan score => s!"Const(score={Decimal.plain32 score}, query={plan.describe})"
  | .boost plan factor => s!"Boost(query={plan.describe}, boost={Decimal.plain32 factor})"
  | .range field lower upper =>
    s!"RangeQuery \x7b field: {Text.quoted field.name}, value_type: Str, " ++
      s!"lower_bound: {lower.describe}, upper_bound: {upper.describe}, limit: None \x7d"

/-- Plans as texts. -/
def describeAll : List Plan → List String
  | [] => []
  | plan :: rest => plan.describe :: describeAll rest

/-- Parts of a boolean plan as texts. -/
def describeClauses : List (Occur × Plan) → List String
  | [] => []
  | (occur, plan) :: rest => s!"({occur.name}, {plan.describe})" :: describeClauses rest
end

mutual
/-- The tokens a plan looks up, in order and with repetition. -/
def Plan.terms : Plan → List (Field × String)
  | .all | .none | .range .. => []
  | .term field token => [(field, token)]
  | .boolean parts => clauseTerms parts
  | .atLeast _ parts => allTerms parts
  | .constant plan _ => plan.terms
  | .boost plan _ => plan.terms

/-- The tokens that plans look up. -/
def allTerms : List Plan → List (Field × String)
  | [] => []
  | plan :: rest => plan.terms ++ allTerms rest

/-- The tokens that the parts of a boolean plan look up. -/
def clauseTerms : List (Occur × Plan) → List (Field × String)
  | [] => []
  | (_, plan) :: rest => plan.terms ++ clauseTerms rest
end

end Catalogue
