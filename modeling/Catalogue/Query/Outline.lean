import Catalogue.Decimal.Layout
import Catalogue.Query.Basic
import Catalogue.Text.Quoted

/-!
# Query outlines

A query is shown as an indented outline, one line per node, two blanks per level.
-/

namespace Catalogue

/-- A term as text: strings in quotes, numbers in full. -/
def Term.describe : Term → String
  | string s => Text.quoted s
  | number x => Decimal.plain x
  | boolean b => if b then "true" else "false"
  | point p => s!"({Decimal.plain p.latitude}, {Decimal.plain p.longitude})"

/-- A range as text: a square bracket includes the bound beside it, a brace leaves it out. -/
def Range.describe (r : Range) : String :=
  let opening := if r.includeLower then "[" else "\x7b"
  let closing := if r.includeUpper then "]" else "\x7d"
  s!"Range({r.field}: {opening}{r.lower.describe} TO {r.upper.describe}{closing})"

/-- The heading over a clause. -/
def Occur.label : Occur → String
  | should => "Should"
  | must => "Must"
  | mustNot => "MustNot"

/-- A line of an outline. -/
def outlineLine (level : Nat) (line : String) : String :=
  String.ofList (List.replicate (2 * level) ' ') ++ line ++ "\n"

mutual
/-- The lines of a query, `level` levels in. -/
def Query.outlineAt (level : Nat) : Query → String
  | .matchAll => outlineLine level "MatchAll"
  | .term field t => outlineLine level s!"Term({field}: {t.describe})"
  | .text field s => outlineLine level s!"Match({field}: {Text.quoted s})"
  | .boolean clauses minimum =>
    outlineLine level s!"Boolean(min_should={Decimal.natural minimum.toNat})" ++
      clausesOutline level clauses
  | .constantScore q boost =>
    outlineLine level s!"ConstantScore({Decimal.plain32 boost})" ++ q.outlineAt (level + 1)
  | .boosted q boost =>
    outlineLine level s!"Boosted({Decimal.plain32 boost})" ++ q.outlineAt (level + 1)
  | .range r => outlineLine level r.describe

/-- The lines of clauses: each query one level below its heading. -/
def clausesOutline (level : Nat) : List (Occur × Query) → String
  | [] => ""
  | (occur, q) :: rest =>
    outlineLine (level + 1) occur.label ++ q.outlineAt (level + 2) ++ clausesOutline level rest
end

/-- The outline of a query. -/
def Query.outline (q : Query) : String := q.outlineAt 0

end Catalogue
