import Catalogue.Command.Screen
import Catalogue.Search.Storage
import Catalogue.Text.Lines

/-!
# Adding books

Books are read one to a line and committed together: a line that is no book, or a book that cannot
be added, leaves the index as it was.
-/

namespace Catalogue.Command

/-- What is wrong with a line. -/
structure LineError where
  line : Nat
  reason : String
  deriving DecidableEq, Repr

/-- The message for a line that is no book. -/
def LineError.message (e : LineError) : String :=
  s!"line {Decimal.natural e.line}: invalid document: {e.reason}"

/-- The books of numbered lines. Blank lines hold none. -/
def readBooks : Nat → List (List Char) → Except LineError (List Book)
  | _, [] => .ok []
  | number, line :: rest =>
    if (Text.trim line).isEmpty then readBooks (number + 1) rest
    else
      match Json.readText Book.read (String.ofList line) with
      | .error e => .error ⟨number, e.message⟩
      | .ok book => do
        let books ← readBooks (number + 1) rest
        return book :: books

/-- The books of a text. -/
def booksOfText (text : String) : Except LineError (List Book) :=
  readBooks 1 (Text.lines text.toList)

/-- What the index makes of the books of one run: whether a writer can be opened, whether it takes
each of them, by number, and what comes of the commit. -/
structure WriteOutcome where
  opened : Except String Unit
  taken : Nat → Except String Unit
  committed : CommitOutcome

/-- An index that fails for no reason of its own. -/
def WriteOutcome.fine : WriteOutcome := ⟨.ok (), fun _ => .ok (), .kept (.ok ()) (.ok ())⟩

/-- Adds books to a service, the first of which has a number, up to one that cannot be added. -/
def addAll (outcome : WriteOutcome) (index : Index) (service : Service Empty) :
    Nat → List Book → Except (Book × SearchError) (Index × Service Empty)
  | _, [] => .ok (index, service)
  | number, book :: rest =>
    match service.addAs ⟨outcome.opened, outcome.taken number⟩ index book with
    | (.error e, _, _) => .error (book, e)
    | (.ok _, index, service) => addAll outcome index service (number + 1) rest

/-- Commits what was added. What the index keeps is stored if it has a place, whatever fails then. -/
def commitTo (outcome : CommitOutcome) (tree : Tree) (dir : Option Path) (index : Index)
    (service : Service Empty) : Except SearchError (Service Empty) × Tree :=
  let (result, index, service) := service.commitAs outcome index
  let stored : Except IndexError Tree := match outcome, dir with
    | .kept .., some dir => index.storeIn tree dir
    | _, _ => .ok tree
  match stored with
  | .error e => (.error (.index e), tree)
  | .ok tree => (result.map fun _ => service, tree)

/-- Adds and commits books, of which there is at least one. -/
def addBooks (outcome : WriteOutcome) (s : Setting) (settings : Settings) (books : List Book) :
    Outcome :=
  match Service.openWith s.stemmers s.tree settings Registry.builtin with
  | (.error e, tree) => { s with tree }.fail [s!"error: failed to open index: {e.message}"]
  | (.ok (index, service), tree) =>
    let s := { s with tree }
    match addAll outcome index service 0 books with
    | .error (book, e) => s.fail [s!"error: failed to add '{book.title}': {e.message}"]
    | .ok (index, service) =>
      match commitTo outcome.committed tree settings.index.path index service with
      | (.error e, tree) => { s with tree }.fail [s!"error: {e.message}"]
      | (.ok service, tree) =>
        let added := Decimal.natural books.length
        let total := Decimal.natural service.documentCount
        { s with tree }.done [s!"Added {added} documents ({total} in index)"]

/-- Adds the books of a file, with what the index makes of them. -/
def Setting.addAs (outcome : WriteOutcome) (s : Setting) (settings : Settings) (file : String) :
    Outcome :=
  match s.readArgument file with
  | .error e => s.fail [s!"error: failed to read {file}: {e.message}"]
  | .ok text =>
    match booksOfText text with
    | .error e => s.fail [s!"error: {file}: {e.message}"]
    | .ok [] => s.done ["No documents to add."]
    | .ok books =>
      let warnings := match settings.index.path with
        | none => [yellow "warning: no index path configured; documents are discarded on exit"]
        | some _ => []
      (addBooks outcome s settings books).afterErrors warnings

end Catalogue.Command
