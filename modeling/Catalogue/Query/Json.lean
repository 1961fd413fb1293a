import Catalogue.Json.Reading
import Catalogue.Json.Text
import Catalogue.Query.Basic

/-!
# Queries as JSON

Every node is an object whose only member is named for its sort; the query for every document is
its bare name. Bodies are objects, or arrays of the fields in order.
-/

namespace Catalogue

open Json

/-! ## Writing -/

/-- A term as JSON. -/
def Term.toJson : Term → Json
  | string s => .object [("string", .string s)]
  | number x => .object [("number", ofDouble x)]
  | boolean b => .object [("boolean", .bool b)]
  | point p =>
    .object [("point",
      .object [("latitude", ofDouble p.latitude), ("longitude", ofDouble p.longitude)])]

/-- A range as JSON. -/
def Range.toJson (r : Range) : Json :=
  .object [("field", .string r.field), ("lower", r.lower.toJson), ("upper", r.upper.toJson),
    ("include_lower", .bool r.includeLower), ("include_upper", .bool r.includeUpper)]

/-- The tag of a clause. -/
def Occur.tag : Occur → String
  | should => "should"
  | must => "must"
  | mustNot => "must_not"

mutual
/-- A query as JSON. -/
def Query.toJson : Query → Json
  | .matchAll => .string "match_all"
  | .term field t => .object [("term", .object [("field", .string field), ("term", t.toJson)])]
  | .text field s => .object [("match", .object [("field", .string field), ("text", .string s)])]
  | .boolean clauses minimum =>
    .object [("boolean", .object [("clauses", .array (clausesToJson clauses)),
      ("minimum_should_match", .number (.natural minimum))])]
  | .constantScore q boost =>
    .object [("constant_score", .object [("query", q.toJson), ("boost", ofSingle boost)])]
  | .boosted q boost =>
    .object [("boosted", .object [("query", q.toJson), ("boost", ofSingle boost)])]
  | .range r => .object [("range", r.toJson)]

/-- Clauses as JSON. -/
def clausesToJson : List (Occur × Query) → List Json
  | [] => []
  | (occur, q) :: rest => .object [(occur.tag, q.toJson)] :: clausesToJson rest
end

/-! ## Reading -/

/-- A record of two fields, both required. -/
def pairShape {α β : Type} (expected first second : String) (readFirst : Reader α)
    (readSecond : Reader β) : Shape (Option α × Option β) where
  expected := expected
  fields := [first, second]
  required := 2
  strict := false
  empty := (none, none)
  field name found form scan :=
    if name = first then do
      let a ← fill first found.1 (readFirst form scan)
      return (a, found.2)
    else do
      let b ← fill second found.2 (readSecond form scan)
      return (found.1, b)

/-- Both fields of a record of two. -/
def requirePair {α β : Type} (first second : String) (found : Option α × Option β) :
    Read (α × β) := do
  let a ← require first found.1
  let b ← require second found.2
  return (a, b)

/-- Reads a place. -/
def Point.read : Reader Point := fun form scan => do
  let shape := pairShape "struct Point" "latitude" "longitude" readDouble readDouble
  let (latitude, longitude) ← requirePair "latitude" "longitude" (← shape.read form scan)
  return ⟨latitude, longitude⟩

/-- The tags of terms. -/
def Term.tags : List String := ["string", "number", "boolean", "point"]

/-- Reads a term. -/
def Term.read : Reader Term :=
  readTagged Term.tags fun tag content =>
    match tag with
    | "string" => .string <$> content.single readString
    | "number" => .number <$> content.single readDouble
    | "boolean" => .boolean <$> content.single readBool
    | _ => .point <$> content.single Point.read

/-- The fields of a range read so far. -/
structure Range.Parts where
  field : Option String
  lower : Option Term
  upper : Option Term
  includeLower : Option Bool
  includeUpper : Option Bool

/-- The fields of a range. The flags may be left out, and nothing else may be there. -/
def Range.shape : Shape Range.Parts where
  expected := "struct RangeParts"
  fields := ["field", "lower", "upper", "include_lower", "include_upper"]
  required := 3
  strict := true
  empty := ⟨none, none, none, none, none⟩
  field name found form scan :=
    match name with
    | "field" => return { found with field := ← fill "field" found.field (readString form scan) }
    | "lower" => return { found with lower := ← fill "lower" found.lower (Term.read form scan) }
    | "upper" => return { found with upper := ← fill "upper" found.upper (Term.read form scan) }
    | "include_lower" =>
      return { found with
        includeLower := ← fill "include_lower" found.includeLower (readBool form scan) }
    | _ =>
      return { found with
        includeUpper := ← fill "include_upper" found.includeUpper (readBool form scan) }

/-- Reads a range; its bounds must be of one kind. -/
def Range.read : Reader Range := fun form scan => do
  let parts ← Range.shape.read form scan
  let field ← require "field" parts.field
  let lower ← require "lower" parts.lower
  let upper ← require "upper" parts.upper
  match Range.make field lower upper (parts.includeLower.getD false)
      (parts.includeUpper.getD false) with
  | .ok r => return r
  | .error e => fail (.refused e.message)

/-- The tags of queries. -/
def Query.tags : List String :=
  ["match_all", "term", "match", "boolean", "constant_score", "boosted", "range"]

/-- The tags of clauses. -/
def Occur.tags : List String := ["should", "must", "must_not"]

/-- The clause of a tag. -/
def Occur.ofTag (tag : String) : Occur :=
  match tag with
  | "should" => .should
  | "must" => .must
  | _ => .mustNot

/-- The body of a boolean query. The minimum may be left out. -/
def Query.booleanShape (readClause : Reader (Occur × Query)) :
    Shape (Option (List (Occur × Query)) × Option UInt64) :=
  { pairShape "struct variant QueryNode::Boolean" "clauses" "minimum_should_match"
      (readList readClause) readCount with
    required := 1 }

/-- The body of a query with a boost. -/
def Query.weightedShape (variant : String) (readQuery : Reader Query) :
    Shape (Option Query × Option Float32) :=
  pairShape s!"struct variant QueryNode::{variant}" "query" "boost" readQuery readSingle

/-- Reads a query that nests at most so many levels. -/
def Query.readWithin : Nat → Reader Query
  | 0 => fun _ _ => failFault .malformed
  | level + 1 =>
    readTagged Query.tags fun tag content =>
      match tag with
      | "match_all" => do
        content.unit
        return .matchAll
      | "term" => do
        let shape := pairShape "struct variant QueryNode::Term" "field" "term" readString Term.read
        let (field, t) ← requirePair "field" "term" (← content.record shape)
        return .term field t
      | "match" => do
        let shape :=
          pairShape "struct variant QueryNode::Match" "field" "text" readString readString
        let (field, s) ← requirePair "field" "text" (← content.record shape)
        return .text field s
      | "boolean" => do
        let readClause := readTagged Occur.tags fun tag content => do
          let q ← content.single (Query.readWithin level)
          return (Occur.ofTag tag, q)
        let found ← content.record (Query.booleanShape readClause)
        let clauses ← require "clauses" found.1
        return .boolean clauses (found.2.getD 0)
      | "constant_score" => do
        let shape := Query.weightedShape "ConstantScore" (Query.readWithin level)
        let (q, boost) ← requirePair "query" "boost" (← content.record shape)
        return .constantScore q boost
      | "boosted" => do
        let shape := Query.weightedShape "Boosted" (Query.readWithin level)
        let (q, boost) ← requirePair "query" "boost" (← content.record shape)
        return .boosted q boost
      | _ => .range <$> content.single Range.read

mutual
/-- How deep a scan nests. -/
def Json.Scan.height : Scan → Nat
  | .array items _ => itemsHeight items + 1
  | .object members _ => membersHeight members + 1
  | .misnamed members _ => membersHeight members + 1
  | _ => 1

/-- How deep the items of an array nest. -/
def itemsHeight : List Scan → Nat
  | [] => 0
  | item :: rest => max item.height (itemsHeight rest)

/-- How deep the members of an object nest. -/
def membersHeight : List (Option String × Scan) → Nat
  | [] => 0
  | (_, value) :: rest => max value.height (membersHeight rest)
end

/-- Reads a query. Each level of it nests at least one level in the data. -/
def Query.read : Reader Query := fun form scan => Query.readWithin scan.height form scan

end Catalogue
