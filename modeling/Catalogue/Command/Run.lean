import Catalogue.Command.Add
import Catalogue.Command.Arguments
import Catalogue.Command.Check
import Catalogue.Command.Init
import Catalogue.Command.Search

/-!
# Carrying out command lines

All commands but `init` need settings that can be read.
-/

namespace Catalogue.Command

/-- Carries out a request, with what the index makes of the books that it adds. -/
def Request.runAs (outcome : WriteOutcome) (r : Request) (s : Setting) : Outcome :=
  let withSettings (command : Settings → Outcome) : Outcome :=
    match Settings.load s.tree s.home s.dir with
    | .error e => s.fail [s!"error: failed to load configuration: {e.message}"]
    | .ok settings => command settings
  match r with
  | .init force => s.start force
  | .check => withSettings s.check
  | .add file => withSettings fun settings => s.addAs outcome settings file
  | .search query limit json explain =>
    withSettings fun settings => s.search settings query limit json explain

/-- Carries out a request, with an index that fails for no reason of its own. -/
def Request.run (r : Request) (s : Setting) : Outcome := r.runAs .fine s

end Catalogue.Command
