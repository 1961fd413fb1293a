import Catalogue.Files.Tree
import Catalogue.Search.Service
import Catalogue.Settings.Basic

/-!
# Stored indexes

An index with a path is kept in a directory, whose head file leads to its segments. Opening it
makes the directory and the head file if they are missing.
-/

namespace Catalogue

namespace Index

/-- The head file of a stored index. -/
def headFile (dir : Path) : Path := dir.join ⟨"meta.json"⟩

/-- Opens the index that is stored in a directory. -/
def openIn (t : Tree) (dir : Path) : Except IndexError (Index × Tree) := do
  let t ← (t.ensureDirectories dir).mapError fun e => .io e.message
  match t.find? (headFile dir) with
  | some (.segments stored) => return (⟨stored, false⟩, t)
  | some _ => .error (.unreadable dir.text)
  | none =>
    let t ← (t.write (headFile dir) (.segments [])).mapError fun e => .io e.message
    return (empty, t)

/-- Stores an index in its directory. -/
def storeIn (i : Index) (t : Tree) (dir : Path) : Except IndexError Tree :=
  (t.write (headFile dir) (.segments i.segments)).mapError fun e => .io e.message

end Index

namespace Service

variable {ε : Type}

/-- Opens the service that settings describe, over the stored index if they name one. The graph of
the bindings comes first, then the index, then what `create` checks. -/
def openWith (stemmers : Analysis.Stemmers) (t : Tree) (s : Settings) (registry : Registry) :
    Except SearchError (Index × Service ε) × Tree :=
  match Graph.ofSettings s.scoring registry with
  | .error e => (.error (.graph e), t)
  | .ok g =>
    let found : Except IndexError (Index × Tree) := match s.index.path with
      | none => .ok (Index.empty, t)
      | some dir => Index.openIn t dir
    match found with
    | .error e => (.error (.index e), t)
    | .ok (index, t) =>
      let created := create stemmers index ⟨s.index.language, s.index.heapSize⟩ g s.search.score
      (created.map fun service => (index, service), t)

end Service

end Catalogue
