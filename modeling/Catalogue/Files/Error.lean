/-!
# Why a file cannot be used
-/

namespace Catalogue

/-- Why a file cannot be read or written. -/
inductive FileError where
  | notFound
  | notADirectory
  | isADirectory
  | occupied
  | notText
  deriving DecidableEq, Repr

/-- The message for a file that cannot be read or written. -/
def FileError.message : FileError → String
  | notFound => "No such file or directory (os error 2)"
  | notADirectory => "Not a directory (os error 20)"
  | isADirectory => "Is a directory (os error 21)"
  | occupied => "File exists (os error 17)"
  | notText => "stream did not contain valid UTF-8"

end Catalogue
