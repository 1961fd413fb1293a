import Catalogue.Index.Place
import Catalogue.Json.Reading
import Catalogue.Query.Json

/-!
# Scoring settings

Settings bind names to fields of a document, and further names to functions of bindings.
-/

namespace Catalogue

open Json

/-- A name for a field, read in some way. -/
structure LeafBinding where
  name : String
  field : String
  kind : FieldKind
  deriving DecidableEq, Repr

/-- A name for a function of other bindings, in argument order. -/
structure DerivedBinding where
  name : String
  function : String
  inputs : List String
  deriving DecidableEq, Repr

/-- All bindings, in declaration order. -/
structure ScoringSettings where
  leaf : List LeafBinding
  derived : List DerivedBinding
  deriving DecidableEq, Repr

/-- The name of a way to read a field. -/
def FieldKind.name : FieldKind → String
  | string => "string"
  | strings => "strings"
  | bytes => "bytes"
  | bytesList => "bytes_list"

/-- The names of the ways to read a field. -/
def FieldKind.names : List String := ["string", "strings", "bytes", "bytes_list"]

/-- The way to read a field of a name. -/
def FieldKind.ofName? : String → Option FieldKind
  | "string" => some .string
  | "strings" => some .strings
  | "bytes" => some .bytes
  | "bytes_list" => some .bytesList
  | _ => none

namespace ScoringSettings

/-- The fields bound by default. -/
def defaultLeaf : List LeafBinding :=
  [⟨"title", "title", .string⟩, ⟨"isbn", "isbn", .string⟩]

/-- The functions bound by default: the lengths of both fields and their sum. -/
def defaultDerived : List DerivedBinding :=
  [⟨"title_length", "length", ["title"]⟩, ⟨"isbn_length", "length", ["isbn"]⟩,
    ⟨"weird_score", "sum", ["title_length", "isbn_length"]⟩]

/-- The names that settings bind, leaves first. -/
def names (s : ScoringSettings) : List String :=
  s.leaf.map LeafBinding.name ++ s.derived.map DerivedBinding.name

/-- The default bindings. -/
def default : ScoringSettings := ⟨defaultLeaf, defaultDerived⟩

end ScoringSettings

/-- A way to read a field as JSON. -/
def FieldKind.toJson (k : FieldKind) : Json := .string k.name

/-- A leaf binding as JSON. -/
def LeafBinding.toJson (b : LeafBinding) : Json :=
  .object [("name", .string b.name), ("field", .string b.field), ("kind", b.kind.toJson)]

/-- A derived binding as JSON. -/
def DerivedBinding.toJson (b : DerivedBinding) : Json :=
  .object [("name", .string b.name), ("function", .string b.function),
    ("inputs", .array (b.inputs.map .string))]

/-- Scoring settings as JSON. -/
def ScoringSettings.toJson (s : ScoringSettings) : Json :=
  .object [("leaf", .array (s.leaf.map LeafBinding.toJson)),
    ("derived", .array (s.derived.map DerivedBinding.toJson))]

/-- Reads a way to read a field. -/
def FieldKind.read : Reader FieldKind :=
  readTagged FieldKind.names fun tag content => do
    content.unit
    return (FieldKind.ofName? tag).getD .string

/-- A record of three fields, all required. -/
def tripleShape {α β γ : Type} (expected first second third : String) (readFirst : Reader α)
    (readSecond : Reader β) (readThird : Reader γ) :
    Shape (Option α × Option β × Option γ) where
  expected := expected
  fields := [first, second, third]
  required := 3
  strict := false
  empty := (none, none, none)
  field name found form scan :=
    if name = first then do
      let a ← fill first found.1 (readFirst form scan)
      return (a, found.2)
    else if name = second then do
      let b ← fill second found.2.1 (readSecond form scan)
      return (found.1, b, found.2.2)
    else do
      let c ← fill third found.2.2 (readThird form scan)
      return (found.1, found.2.1, c)

/-- All fields of a record of three. -/
def requireTriple {α β γ : Type} (first second third : String)
    (found : Option α × Option β × Option γ) : Read (α × β × γ) := do
  let a ← require first found.1
  let b ← require second found.2.1
  let c ← require third found.2.2
  return (a, b, c)

/-- Reads a leaf binding. -/
def LeafBinding.read : Reader LeafBinding := fun form scan => do
  let shape := tripleShape "struct LeafBinding" "name" "field" "kind" readString readString
    FieldKind.read
  let (name, field, kind) ← requireTriple "name" "field" "kind" (← shape.read form scan)
  return ⟨name, field, kind⟩

/-- Reads a derived binding. -/
def DerivedBinding.read : Reader DerivedBinding := fun form scan => do
  let shape := tripleShape "struct DerivedBinding" "name" "function" "inputs" readString readString
    (readList readString)
  let (name, function, inputs) ← requireTriple "name" "function" "inputs" (← shape.read form scan)
  return ⟨name, function, inputs⟩

/-- Reads scoring settings. An absent list is the default one. -/
def ScoringSettings.read : Reader ScoringSettings := fun form scan => do
  let shape := { pairShape "struct ScoringSettings" "leaf" "derived" (readList LeafBinding.read)
    (readList DerivedBinding.read) with required := 0 }
  let (leaf, derived) ← shape.read form scan
  return ⟨leaf.getD ScoringSettings.defaultLeaf, derived.getD ScoringSettings.defaultDerived⟩

end Catalogue
