import Catalogue.Files.Path

/-!
# Where the index is

Settings name the index directory by a path. It is seen from the directory of the file that names
it, or from the home directory when it begins with a tilde.
-/

namespace Catalogue

/-- A path with a leading tilde replaced by the home directory. There is none to replace it with
when that directory is unknown. -/
def Path.expandHome? (home : Option Path) (text : String) : Option Path :=
  match text.toList with
  | ['~'] => home
  | '~' :: '/' :: rest => home.map fun dir => dir.join ⟨String.ofList rest⟩
  | _ => some ⟨text⟩

/-- The place that a path in settings names, seen from a directory. -/
def Path.resolve? (home : Option Path) (dir : Path) (text : String) : Option Path :=
  (Path.expandHome? home text).map dir.join

end Catalogue
