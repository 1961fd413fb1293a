import Catalogue.Proofs.Files.Absolute
import Catalogue.Proofs.Settings.Closest
import Catalogue.Proofs.Settings.Written
import Catalogue.Settings.Discovery

/-! # Settings that go from file to file

What files at absolute paths say together has an absolute path and counts of 64 bits. Such settings
can be written as one file, and that says the same wherever it is read. -/

namespace Catalogue

open Toml

/-! ## What files can say -/

namespace Settings

end Settings

end Catalogue
