import Catalogue.Settings.Basic
import Catalogue.Toml.Text

/-!
# Settings as a settings file

The settings in force are written as the file that says all of them.
-/

namespace Catalogue

/-- The members of a leaf binding. -/
def LeafBinding.members (b : LeafBinding) : List (String × Toml) :=
  [("name", .string b.name), ("field", .string b.field), ("kind", .string b.kind.name)]

/-- The members of a derived binding. -/
def DerivedBinding.members (b : DerivedBinding) : List (String × Toml) :=
  [("name", .string b.name), ("function", .string b.function),
    ("inputs", .array (b.inputs.map .string))]

/-- The members of the index section of a file. -/
def IndexSettings.members (s : IndexSettings) : List (String × Toml) :=
  let path := match s.path with
    | none => []
    | some path => [("path", .string path.text)]
  path ++ [("language", .string s.language), ("heap_size", .integer s.heapSize)]

/-- The members of the search section of a file. -/
def SearchSettings.members (s : SearchSettings) : List (String × Toml) :=
  [("default_limit", .integer s.defaultLimit), ("score", .string s.score)]

/-- The members of the scoring section of a file: two lists of tables. -/
def ScoringSettings.members (s : ScoringSettings) : List (String × Toml) :=
  [("leaf", .array ((s.leaf.map LeafBinding.members).map .table)),
    ("derived", .array ((s.derived.map DerivedBinding.members).map .table))]

namespace Settings

/-- The members of the file that says these settings. -/
def members (s : Settings) : List (String × Toml) :=
  [("index", .table s.index.members), ("search", .table s.search.members),
    ("scoring", .table s.scoring.members)]

/-- The text of the file that says these settings. -/
def text (s : Settings) : String := Toml.text s.members

end Settings

end Catalogue
