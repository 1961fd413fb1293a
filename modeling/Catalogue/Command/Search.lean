import Catalogue.Command.Screen
import Catalogue.Decimal.Fixed
import Catalogue.Search.Storage
import Catalogue.Text.Grid

/-!
# Searching

A query is answered with its best hits, as a grid or as JSON, and with the explanations of their
scores if they are wanted.
-/

namespace Catalogue

mutual
/-- An explanation as JSON, its members in the order of their names. -/
def Explanation.toJson : Explanation → Json
  | .mk value description details =>
    let parts := explanationsToJson details
    .object ([("description", Json.string description)] ++
      (if parts.isEmpty then [] else [("details", .array parts)]) ++
      [("value", Json.ofDouble value.toFloat)])

/-- Explanations as JSON. -/
def explanationsToJson : List Explanation → List Json
  | [] => []
  | e :: rest => e.toJson :: explanationsToJson rest
end

namespace Command

/-- A hit with its rank, and its explanation if that is wanted. -/
structure RankedHit where
  rank : Nat
  hit : Hit
  explanation : Option Explanation

/-- A ranked hit as JSON. -/
def RankedHit.toJson (r : RankedHit) : Json :=
  let explanation := match r.explanation with
    | some e => [("explanation", e.toJson)]
    | none => []
  .object ([("rank", Json.ofNat r.rank), ("title", .string r.hit.book.title),
    ("isbn", .string r.hit.book.isbn), ("score", Json.ofSingle r.hit.score)] ++ explanation)

/-- The answer to a query as JSON. -/
def answerJson (query : Query) (hits : List RankedHit) : Json :=
  .object [("query", query.toJson), ("total_hits", Json.ofNat hits.length),
    ("hits", .array (hits.map RankedHit.toJson))]

/-- The row of a hit. -/
def hitRow (r : RankedHit) : List Text.Cell :=
  [.ofText true (Decimal.natural r.rank),
    .ofText true (Decimal.fixed 2 (.ofFloat32 r.hit.score)),
    .ofText false r.hit.book.title, .ofText false r.hit.book.isbn]

/-- The lines of a grid of hits. -/
def hitLines (hits : List RankedHit) : List String :=
  let header := ["#", "Score", "Title", "ISBN"].map (Text.Cell.ofText false)
  (Text.gridLines header (hits.map hitRow)).map String.ofList

/-- The lines of the explanation of a hit. -/
def explanationLines (r : RankedHit) : List String :=
  match r.explanation with
  | none => []
  | some e =>
    let heading := bold ("#" ++ Decimal.natural r.rank ++ " " ++ r.hit.book.title)
    ["", heading] ++ (Text.lines e.toJson.prettyText.toList).map fun line => indent (String.ofList line)

/-- The lines of an answer. -/
def answerLines (query : Query) (hits : List RankedHit) (json : Bool) : List String :=
  if json then [(answerJson query hits).prettyText]
  else if hits.isEmpty then [dim "No results found."]
  else hitLines hits ++ hits.flatMap explanationLines

/-- Hits with their ranks. -/
def rankHits (hits : List (Hit × Option Explanation)) : List RankedHit :=
  (hits.zipIdx 1).map fun ((hit, explanation), rank) => ⟨rank, hit, explanation⟩

/-- The best hits of a query, explained if that is wanted. -/
def findHits (service : Service Empty) (query : Query) (limit : Nat) (explain : Bool) :
    Except SearchError (List RankedHit) :=
  let found : Except SearchError (List (Hit × Option Explanation)) :=
    if explain then
      (service.explainTop query limit).1.map fun hits => hits.map fun (h, e) => (h, some e)
    else (service.search query limit).1.map fun hits => hits.map fun h => (h, none)
  found.map rankHits

/-- Answers the query of a file. -/
def Setting.search (s : Setting) (settings : Settings) (file : String) (limit : Option Nat)
    (json explain : Bool) : Outcome :=
  match s.readArgument file with
  | .error e => s.fail [s!"error: failed to read {file}: {e.message}"]
  | .ok text =>
    match Json.readText Query.read text with
    | .error e => s.fail [s!"error: invalid query in {file}: {e.message}"]
    | .ok query =>
      match Service.openWith s.stemmers s.tree settings Registry.builtin with
      | (.error e, tree) => { s with tree }.fail [s!"error: failed to open index: {e.message}"]
      | (.ok (_, service), tree) =>
        let s := { s with tree }
        match findHits service query (limit.getD settings.search.defaultLimit) explain with
        | .error e => s.fail [s!"error: search failed: {e.message}"]
        | .ok hits => s.done (answerLines query hits json)

end Command

end Catalogue
