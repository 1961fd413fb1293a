import Catalogue.Files.Error
import Catalogue.Files.Path

/-!
# Why settings cannot be had
-/

namespace Catalogue

/-- Why settings cannot be had: a file cannot be read, it is no settings file, or the home directory
is not known that a path begins at. -/
inductive SettingsError where
  | unreadable (path : Path) (reason : FileError)
  | malformed (path : Path)
  | noHome
  deriving DecidableEq, Repr

/-- The message for settings that cannot be had. -/
def SettingsError.message : SettingsError → String
  | unreadable path reason => s!"failed to read config file {path.text}: {reason.message}"
  | malformed path => s!"failed to parse config file {path.text}"
  | noHome => "could not determine home directory"

end Catalogue
