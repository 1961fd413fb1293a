import Catalogue.Command.Run
import Catalogue.Index.Stored

/-!
# The program

What a command needs of the disk is copied into a tree of files, and what it changed is written back.
The stemmers of languages other than English are supplied by whoever builds the program.
-/

namespace Catalogue.Program

/-- What stands on the disk at a path. -/
def probe (path : Path) : IO (Option Entry) := do
  let file := (← IO.currentDir) / path.text
  if ← file.isDir then return some .directory
  else if ← file.pathExists then
    match String.fromUTF8? (← IO.FS.readBinFile file) with
    | some text =>
      if file.fileName = some "meta.json" then
        return some ((segmentsOfText? text).elim (.text text) .segments)
      else return some (.text text)
    | none => return some .bytes
  else return none

/-- Copies what stands at a path, and the directories above it, into a tree. -/
def copy (tree : Tree) (path : Path) : IO Tree :=
  path.ancestors.reverse.foldlM (fun tree p => do
    match tree.locate p, ← probe p with
    | .ok place, some e => return tree.put place e
    | _, _ => return tree) tree

/-- Copies what stands at some paths into a tree. -/
def copyAll (tree : Tree) (paths : List Path) : IO Tree := paths.foldlM copy tree

/-- The file that a request reads. -/
def argument? : Command.Request → Option String
  | .add file => some file
  | .search query .. => some query
  | _ => none

/-- The part of the disk that a request needs. -/
def copyFor (r : Command.Request) (dir : Path) (home : Option Path) : IO Tree := do
  let argument := ((argument? r).map fun file => dir.join ⟨file⟩).toList
  let homeFile := (home.map Settings.fileIn).toList
  let tree ← copyAll .empty
    (dir.ancestors.map Settings.fileIn ++ homeFile ++ [dir.join ⟨".gitignore"⟩] ++ argument)
  match Settings.load tree home dir with
  | .ok settings => copyAll tree (settings.index.path.map Index.headFile).toList
  | .error _ => return tree

/-- Whether something has to be written to the disk. -/
def isChanged (before : Option Entry) (after : Entry) : Bool :=
  match before, after with
  | some (.text a), .text b => a ≠ b
  | some .directory, .directory | some .bytes, .bytes => false
  | _, _ => true

/-- Writes something to the disk. -/
def write (place : List String) (e : Entry) : IO Unit := do
  let file := (← IO.currentDir) / ("/" ++ "/".intercalate place)
  match e with
  | .directory => IO.FS.createDirAll file
  | .text content => IO.FS.writeFile file content
  | .segments stored => IO.FS.writeFile file (segmentsText stored)
  | .bytes => return

/-- Writes what a command changed to the disk, directories first. -/
def writeBack (before after : Tree) : IO Unit := do
  let changed := after.entries.filter fun (place, e) => isChanged (before.get? place) e
  let (directories, files) := changed.partition fun entry => entry.2.isDirectory
  for (place, e) in directories ++ files do
    write place e

/-- All that comes from a stream. -/
partial def readAll (stream : IO.FS.Stream) (read : String) : IO String := do
  let line ← stream.getLine
  if line.isEmpty then return read else readAll stream (read ++ line)

/-- Carries out a request. -/
def carryOut (stemmers : Analysis.Stemmers) (r : Command.Request) : IO UInt32 := do
  let dir : Path := ⟨(← IO.currentDir).toString⟩
  let home := (← IO.getEnv "HOME").map Path.mk
  let input ← if argument? r = some "-" then readAll (← IO.getStdin) "" else pure ""
  let tree ← copyFor r dir home
  let outcome := r.run ⟨tree, dir, home, input, stemmers⟩
  writeBack tree outcome.tree
  IO.print (Command.unlines outcome.lines)
  IO.eprint (Command.unlines outcome.errors)
  return if outcome.succeeds then 0 else 1

/-- Carries out a command line. -/
def run (stemmers : Analysis.Stemmers) (arguments : List String) : IO UInt32 := do
  match Command.Invocation.ofWords arguments with
  | .ok i => carryOut stemmers i.request
  | .error .helpWanted => do
    IO.println Command.usage
    return 0
  | .error e => do
    IO.eprintln s!"error: {e.message}"
    IO.eprintln Command.usage
    return 2

end Catalogue.Program
