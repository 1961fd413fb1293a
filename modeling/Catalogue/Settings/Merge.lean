import Catalogue.Settings.Basic
import Catalogue.Settings.Error
import Catalogue.Settings.File
import Catalogue.Settings.Location

/-!
# Merging settings files

Files are given closest first. Of each setting the closest file decides that says it, and of the
bindings, which belong together, the closest file with a section for them. Paths are seen from the
files that name them.
-/

namespace Catalogue

/-- A settings file at its place. -/
structure PlacedFile where
  path : Path
  file : SettingsFile
  deriving DecidableEq, Repr

/-- The directory of a file. -/
def PlacedFile.dir (f : PlacedFile) : Path := f.path.parent?.getD ⟨"."⟩

/-- The place that a path in a file names. It is not known without the home directory it begins
at. -/
def PlacedFile.resolve (home : Option Path) (f : PlacedFile) (text : String) :
    Except SettingsError Path :=
  match Path.resolve? home f.dir text with
  | some path => .ok path
  | none => .error .noHome

/-- What a file says about the index, over what farther files say. -/
def IndexSettings.overlay (home : Option Path) (f : PlacedFile) (farther : IndexSettings) :
    Except SettingsError IndexSettings :=
  match f.file.index with
  | none => .ok farther
  | some said => do
    let path ← said.path.mapM (f.resolve home)
    return ⟨path.or farther.path, said.language.getD farther.language,
      said.heapSize.getD farther.heapSize⟩

/-- What a file says about searches, over what farther files say. -/
def SearchSettings.overlay (f : PlacedFile) (farther : SearchSettings) : SearchSettings :=
  match f.file.search with
  | none => farther
  | some said => ⟨said.defaultLimit.getD farther.defaultLimit, said.score.getD farther.score⟩

namespace Settings

/-- What files say about the index together: each is laid over those farther away. -/
def mergeIndex (home : Option Path) (files : List PlacedFile) :
    Except SettingsError IndexSettings :=
  files.foldrM (IndexSettings.overlay home) IndexSettings.default

/-- What files say about searches together: each is laid over those farther away. -/
def mergeSearch (files : List PlacedFile) : SearchSettings :=
  files.foldr SearchSettings.overlay SearchSettings.default

/-- What files say together. -/
def merge (home : Option Path) (files : List PlacedFile) : Except SettingsError Settings :=
  match files with
  | [] => .ok Settings.default
  | closest :: _ => do
    let index ← mergeIndex home files
    return {
      index
      search := mergeSearch files
      scoring := (files.findSome? fun f => f.file.scoring).getD ScoringSettings.default
      root := some closest.dir }

end Settings

end Catalogue
