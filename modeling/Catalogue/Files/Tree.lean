import Catalogue.Files.Error
import Catalogue.Files.Path
import Catalogue.Index.Document

/-!
# Trees of files

A tree holds directories and files by their places. A path leads to a place step by step, and each
step starts from a directory.
-/

namespace Catalogue

/-- What stands at a place: a directory, or a file of text, of bytes that are no text, or with the
segments of a stored index. -/
inductive Entry where
  | directory
  | text (content : String)
  | bytes
  | segments (stored : List Segment)

namespace Entry

/-- Whether this is a directory. -/
def isDirectory : Entry → Bool
  | directory => true
  | _ => false

/-- The text of a file. -/
def text? : Entry → Except FileError String
  | directory => .error .isADirectory
  | text content => .ok content
  | bytes | segments _ => .error .notText

end Entry

/-- A tree of files. The root is a directory without an entry of its own. -/
structure Tree where
  entries : List (List String × Entry)

namespace Tree

/-- The tree with nothing in it. -/
def empty : Tree := ⟨[]⟩

/-- What stands at a place. -/
def get? (t : Tree) (place : List String) : Option Entry :=
  if place = [] then some .directory else t.entries.lookup place

/-- Puts something at a place. -/
def put (t : Tree) (place : List String) (e : Entry) : Tree :=
  ⟨(place, e) :: t.entries.filter fun entry => entry.1 ≠ place⟩

/-- Checks that there is a directory at a place. -/
def checkDirectory (t : Tree) (place : List String) : Except FileError Unit :=
  match t.get? place with
  | some .directory => .ok ()
  | some _ => .error .notADirectory
  | none => .error .notFound

/-- The place that steps from another one lead to. -/
def walk (t : Tree) : List String → List (List Char) → Except FileError (List String)
  | place, [] => .ok place
  | place, step :: rest => do
    t.checkDirectory place
    if Path.isIdle step then t.walk place rest
    else if step = ['.', '.'] then t.walk place.dropLast rest
    else t.walk (place ++ [String.ofList step]) rest

/-- The place that an absolute path leads to. What stands there may be nothing. -/
def locate (t : Tree) (p : Path) : Except FileError (List String) :=
  if p.text = "" then .error .notFound else t.walk [] (Path.pieces p.text.toList).2

/-- What stands where a path leads. -/
def find? (t : Tree) (p : Path) : Option Entry :=
  match t.locate p with
  | .ok place => t.get? place
  | .error _ => none

/-- Whether a path leads to something. -/
def contains (t : Tree) (p : Path) : Bool := (t.find? p).isSome

/-- Whether a path leads to a file. -/
def isFile (t : Tree) (p : Path) : Bool := (t.find? p).any fun e => !e.isDirectory

/-- Whether a path leads to a directory. -/
def isDirectory (t : Tree) (p : Path) : Bool := (t.find? p).any Entry.isDirectory

/-- The text of the file that a path leads to. -/
def readText (t : Tree) (p : Path) : Except FileError String := do
  let place ← t.locate p
  match t.get? place with
  | some e => e.text?
  | none => .error .notFound

/-- Writes a file, in the place of any other one. -/
def write (t : Tree) (p : Path) (e : Entry) : Except FileError Tree := do
  let place ← t.locate p
  match t.get? place with
  | some .directory => .error .isADirectory
  | _ => return t.put place e

/-- Makes the directory that a path leads to, in a directory that is there. -/
def makeDirectory (t : Tree) (p : Path) : Except FileError Tree := do
  let steps := (Path.pieces p.text.toList).2.reverse.dropWhile List.isEmpty
  let place ← t.walk [] steps.reverse
  match t.get? place with
  | some _ => .error .occupied
  | none => return t.put place .directory

/-- Makes the directory that a path leads to, which may be there already. -/
def ensureDirectory (t : Tree) (p : Path) : Except FileError Tree :=
  match t.makeDirectory p with
  | .error e => if t.isDirectory p then .ok t else .error e
  | .ok t => .ok t

/-- Makes the directory that a path leads to, and those above it that are missing, from at most so
many levels up. -/
def makeDirectories (t : Tree) : Nat → Path → Except FileError Tree
  | 0, p => t.ensureDirectory p
  | levels + 1, p =>
    match t.makeDirectory p with
    | .error .notFound =>
      match p.parent? with
      | some dir => do
        let t ← t.makeDirectories levels dir
        t.ensureDirectory p
      | none => .error .notFound
    | _ => t.ensureDirectory p

/-- Makes the directory that a path leads to, and those above it that are missing. -/
def ensureDirectories (t : Tree) (p : Path) : Except FileError Tree :=
  t.makeDirectories p.text.length p

end Tree

end Catalogue
