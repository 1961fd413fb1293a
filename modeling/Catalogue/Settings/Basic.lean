import Catalogue.Files.Path
import Catalogue.Settings.Scoring

/-!
# Settings

The settings in force: where the index is and how it is built, how searches run, and how books are
scored. Every setting has a default.
-/

namespace Catalogue

/-- Settings of the index. Without a path it is kept in memory. -/
structure IndexSettings where
  path : Option Path
  language : String
  heapSize : Nat
  deriving DecidableEq, Repr

/-- Settings of searches: how many hits they return, and the variable that scores a book. -/
structure SearchSettings where
  defaultLimit : Nat
  score : String
  deriving DecidableEq, Repr

/-- The settings in force. `root` is the directory of the closest file that says any. -/
structure Settings where
  index : IndexSettings
  search : SearchSettings
  scoring : ScoringSettings
  root : Option Path
  deriving DecidableEq, Repr

/-- An index in memory, of English titles. -/
def IndexSettings.default : IndexSettings := ⟨none, "english", 50000000⟩

/-- Ten hits, scored by `weird_score`. -/
def SearchSettings.default : SearchSettings := ⟨10, "weird_score"⟩

/-- The settings without any file. -/
def Settings.default : Settings :=
  ⟨IndexSettings.default, SearchSettings.default, ScoringSettings.default, none⟩

end Catalogue
