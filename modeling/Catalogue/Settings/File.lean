import Catalogue.Settings.Scoring
import Catalogue.Toml.Document
import Catalogue.Toml.Reading

/-!
# Settings files

A settings file sets some of the settings. What it leaves out is set by other files or by default.
-/

namespace Catalogue

/-- What a file says about the index. -/
structure IndexSection where
  path : Option String
  language : Option String
  heapSize : Option Nat
  deriving DecidableEq, Repr

/-- What a file says about searches. -/
structure SearchSection where
  defaultLimit : Option Nat
  score : Option String
  deriving DecidableEq, Repr

/-- What a file says. -/
structure SettingsFile where
  isRoot : Option Bool
  index : Option IndexSection
  search : Option SearchSection
  scoring : Option ScoringSettings
  deriving DecidableEq, Repr

/-- A way to read a field. -/
def FieldKind.ofToml? (v : Toml) : Option FieldKind := v.tag?.bind FieldKind.ofName?

/-- A leaf binding. -/
def LeafBinding.ofToml? (v : Toml) : Option LeafBinding := do
  match ← v.fields? ["name", "field", "kind"] with
  | [some name, some field, some kind] =>
    return ⟨← name.string?, ← field.string?, ← FieldKind.ofToml? kind⟩
  | _ => none

/-- A derived binding. -/
def DerivedBinding.ofToml? (v : Toml) : Option DerivedBinding := do
  match ← v.fields? ["name", "function", "inputs"] with
  | [some name, some function, some inputs] =>
    return ⟨← name.string?, ← function.string?, ← inputs.list? Toml.string?⟩
  | _ => none

/-- The scoring section. A list that it leaves out is empty. -/
def ScoringSettings.ofToml? (v : Toml) : Option ScoringSettings := do
  match ← v.fields? ["leaf", "derived"] with
  | [leaf, derived] =>
    let leaf ← Toml.optional? (Toml.list? LeafBinding.ofToml?) leaf
    let derived ← Toml.optional? (Toml.list? DerivedBinding.ofToml?) derived
    return ⟨leaf.getD [], derived.getD []⟩
  | _ => none

/-- The index section. -/
def IndexSection.ofToml? (v : Toml) : Option IndexSection := do
  match ← v.fields? ["path", "language", "heap_size"] with
  | [path, language, heapSize] =>
    return ⟨← Toml.optional? Toml.string? path, ← Toml.optional? Toml.string? language,
      ← Toml.optional? Toml.count? heapSize⟩
  | _ => none

/-- The search section. -/
def SearchSection.ofToml? (v : Toml) : Option SearchSection := do
  match ← v.fields? ["default_limit", "score"] with
  | [limit, score] =>
    return ⟨← Toml.optional? Toml.count? limit, ← Toml.optional? Toml.string? score⟩
  | _ => none

namespace SettingsFile

/-- A settings file. -/
def ofToml? (v : Toml) : Option SettingsFile := do
  match ← v.fields? ["root", "index", "search", "scoring"] with
  | [root, index, search, scoring] =>
    return ⟨← Toml.optional? Toml.bool? root, ← Toml.optional? IndexSection.ofToml? index,
      ← Toml.optional? SearchSection.ofToml? search,
      ← Toml.optional? ScoringSettings.ofToml? scoring⟩
  | _ => none

/-- The settings file of a text. -/
def ofText? (text : String) : Option SettingsFile := (Toml.ofText? text).bind ofToml?

end SettingsFile

end Catalogue
