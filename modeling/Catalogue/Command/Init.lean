import Catalogue.Command.Screen
import Catalogue.Settings.Discovery
import Catalogue.Settings.Template
import Catalogue.Text.Lines

/-!
# Starting a catalogue

The first settings file of a directory is written, unless there is one that must not be lost. If
the directory lists files to ignore, the index is added to them.
-/

namespace Catalogue.Command

/-- The lines of an ignore list that cover the index. -/
def indexPatterns : List String := ["index/", "index", "/index/"]

/-- Whether an ignore list covers the index. -/
def ignoresIndex (text : String) : Bool :=
  (Text.lines text.toList).any fun line => indexPatterns.contains (String.ofList (Text.trim line))

/-- An ignore list with the index on a line of its own at the end. -/
def addIndexPattern (text : String) : String :=
  let ended := if text = "" || text.toList.getLast? = some '\n' then text else text ++ "\n"
  ended ++ "index/\n"

/-- Adds the index to the ignore list of a directory, if there is one. -/
def updateIgnoreList (s : Setting) (list : Path) : Outcome :=
  if !s.tree.contains list then s.done []
  else
    let updated : Except FileError (Option Tree) := do
      let text ← s.tree.readText list
      if ignoresIndex text then return none
      else return some (← s.tree.write list (.text (addIndexPattern text)))
    match updated with
    | .error e => { s.done [] with errors := [s!"warning: could not update .gitignore: {e.message}"] }
    | .ok none => s.done []
    | .ok (some tree) => { s.done ["Added index/ to .gitignore"] with tree }

/-- Writes the first settings file of the directory. -/
def Setting.start (s : Setting) (force : Bool) : Outcome :=
  let file := Settings.fileIn s.dir
  if s.tree.contains file && !force then
    s.fail [s!"error: configuration file already exists: {file.text}", "use --force to overwrite"]
  else
    match s.tree.write file (.text Settings.template) with
    | .error e => s.fail [s!"error: failed to write {file.text}: {e.message}"]
    | .ok tree =>
      let lines := [s!"Created {file.text}", "", bold "Next steps:",
        indent "quarry add books.jsonl", indent "quarry search query.json"]
      (updateIgnoreList { s with tree } (s.dir.join ⟨".gitignore"⟩)).after lines

end Catalogue.Command
