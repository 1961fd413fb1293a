import Catalogue.Index.Document
import Catalogue.Json.Scan
import Catalogue.Json.Text

/-!
# Segments as text

The head file of a stored index keeps the documents of its segments with their tokens, so that they
are found later as they were when they were added.
-/

namespace Catalogue

/-- Texts as JSON. -/
def textsToJson (texts : List String) : Json := .array (texts.map .string)

/-- Texts of both fields as JSON. -/
def fieldsToJson (of : Field → List String) : Json :=
  .object [("title", textsToJson (of .title)), ("isbn", textsToJson (of .isbn))]

/-- A document as JSON. -/
def Document.toJson (d : Document) : Json :=
  .object [("values", fieldsToJson d.values), ("tokens", fieldsToJson d.tokens)]

/-- Segments as JSON. -/
def segmentsToJson (segments : List Segment) : Json :=
  .array (segments.map fun s => .array (s.map Document.toJson))

/-- The items of an array. -/
def Json.items? : Json → Option (List Json)
  | array items => some items
  | _ => none

/-- A text. -/
def Json.string? : Json → Option String
  | string s => some s
  | _ => none

/-- Texts. -/
def textsOfJson? (j : Json) : Option (List String) := do (← j.items?).mapM Json.string?

/-- Texts of both fields. -/
def fieldsOfJson? (j : Json) : Option (Field → List String) := do
  let title ← textsOfJson? (← j.get? "title")
  let isbn ← textsOfJson? (← j.get? "isbn")
  return fieldValues title isbn

/-- A document. -/
def Document.ofJson? (j : Json) : Option Document := do
  return ⟨← fieldsOfJson? (← j.get? "values"), ← fieldsOfJson? (← j.get? "tokens")⟩

/-- Segments. -/
def segmentsOfJson? (j : Json) : Option (List Segment) := do
  (← j.items?).mapM fun s => do (← s.items?).mapM Document.ofJson?

/-- The text that keeps segments. -/
def segmentsText (segments : List Segment) : String := (segmentsToJson segments).text

/-- The segments that a text keeps. -/
def segmentsOfText? (text : String) : Option (List Segment) :=
  (Json.ofText? text).bind segmentsOfJson?

end Catalogue
