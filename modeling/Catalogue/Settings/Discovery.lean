import Catalogue.Files.Tree
import Catalogue.Settings.Merge

/-!
# Finding settings files

Settings files are looked for in a directory and those above it, up to a file that says it is the
root. Unless there is one, the home directory's file comes last.
-/

namespace Catalogue

namespace Settings

/-- The name of a settings file. -/
def fileName : Path := ⟨".quarry.toml"⟩

/-- The settings file of a directory. -/
def fileIn (dir : Path) : Path := dir.join fileName

/-- Whether a file can be read and says that it is the root. -/
def isRootFile (t : Tree) (p : Path) : Bool :=
  match t.readText p with
  | .ok text => (SettingsFile.ofText? text).bind SettingsFile.isRoot = some true
  | .error _ => false

/-- The settings files of directories, up to the first that is the root, and whether one is. -/
def filesUpToRoot (t : Tree) : List Path → List Path × Bool
  | [] => ([], false)
  | dir :: rest =>
    let p := fileIn dir
    if t.isFile p then
      if isRootFile t p then ([p], true)
      else
        let (found, isRooted) := filesUpToRoot t rest
        (p :: found, isRooted)
    else filesUpToRoot t rest

/-- The settings files that count in a directory, closest first. -/
def discover (t : Tree) (home : Option Path) (dir : Path) : List Path :=
  let (found, isRooted) := filesUpToRoot t dir.ancestors
  match home with
  | some home =>
    let p := fileIn home
    if !isRooted && t.isFile p && !found.any p.same then found ++ [p] else found
  | none => found

/-- Reads a settings file. -/
def readFile (t : Tree) (p : Path) : Except SettingsError PlacedFile := do
  let text ← (t.readText p).mapError (.unreadable p)
  match SettingsFile.ofText? text with
  | some file => return ⟨p, file⟩
  | none => .error (.malformed p)

/-- The settings that files say, closest first. -/
def ofFiles (t : Tree) (home : Option Path) (paths : List Path) : Except SettingsError Settings := do
  merge home (← paths.mapM (readFile t))

/-- The settings in force in a directory. -/
def load (t : Tree) (home : Option Path) (dir : Path) : Except SettingsError Settings :=
  ofFiles t home (discover t home dir)

end Settings

end Catalogue
