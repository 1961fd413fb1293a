import Catalogue.Command.Screen
import Catalogue.Search.Storage
import Catalogue.Settings.Discovery
import Catalogue.Settings.Warning

/-!
# Checking settings

The settings files in force, the scoring variables, the index and the warnings are shown, up to the
first error.
-/

namespace Catalogue.Command

/-- The line of a scoring variable. -/
def variableLine (entry : String) (v : Variable) : String :=
  let mark := if v.name = entry then " <- score" else ""
  indent (v.name ++ " " ++ dim ("(" ++ v.type.name ++ ")") ++ mark)

/-- The lines about the index, and the tree that looking at it leaves. -/
def indexLines (s : Setting) (settings : Settings) : Except SearchError (List String) × Tree :=
  match settings.index.path with
  | none => (.ok [bold "Index:", indent (dim "(in memory)"), ""], s.tree)
  | some dir =>
    let line (note : String) : List String :=
      [bold "Index:", indent (dir.text ++ " " ++ dim note), ""]
    if s.tree.contains (Index.headFile dir) then
      let (opened, tree) := Service.openWith s.stemmers s.tree settings Registry.builtin
      let lines := opened.map fun (_, (service : Service Empty)) =>
        line ("(" ++ Decimal.natural service.documentCount ++ " documents)")
      (lines, tree)
    else (.ok (line "(not created yet)"), s.tree)

/-- What can be done about a warning. -/
def hint? : Warning → Option String
  | .inMemoryIndex => some (dim "Hint: set [index] path in .quarry.toml")
  | .unknownScore _ => some (dim "Hint: point [search] score at a [[scoring.derived]] name")
  | .unusedBinding _ => none

/-- Shows the warnings of settings. Any is a failure. -/
def showWarnings (s : Setting) (warnings : List Warning) : Outcome :=
  if warnings.isEmpty then s.done ["No issues found."]
  else
    { s.fail [] with
      lines := [bold s!"Warnings ({Decimal.natural warnings.length}):"] ++
        warnings.map (fun w => indent (yellow w.message)) ++ [""] ++ warnings.filterMap hint? }

/-- Shows the index and the warnings. -/
def checkIndex (s : Setting) (settings : Settings) : Outcome :=
  match indexLines s settings with
  | (.error e, tree) =>
    { s.fail [s!"error: failed to open index: {e.message}"] with lines := [bold "Index:"], tree }
  | (.ok lines, tree) => (showWarnings { s with tree } settings.warnings).after lines

/-- Shows the variables of a graph, and what follows if the score can be had. -/
def checkGraph (s : Setting) (settings : Settings) (g : Graph) : Outcome :=
  let entry := settings.search.score
  let lines := [bold "Scoring:"] ++ g.variables.map (variableLine entry) ++ [""]
  let checked : Except GraphError Unit := do
    g.checkEntry entry
    g.validateFields
  let rest := match checked with
    | .error e => s.fail [s!"error: {e.message}"]
    | .ok _ => checkIndex s settings
  rest.after lines

/-- Shows what is in force. -/
def Setting.check (s : Setting) (settings : Settings) : Outcome :=
  let files := Settings.discover s.tree s.home s.dir
  if files.isEmpty then
    s.done [dim "No configuration files found.", "",
      "Run " ++ bold "quarry init" ++ " to create a configuration file."]
  else
    let registry := Registry.builtin
    let rest := match Graph.ofSettings settings.scoring registry with
      | .error e =>
        let names := ", ".intercalate registry.names
        { s.fail [s!"error: invalid scoring bindings: {e.message}"] with
          lines := [dim s!"Hint: available functions: {names}"] }
      | .ok g => checkGraph s settings g
    rest.after ([bold "Config files:"] ++ files.map (fun p => indent p.text) ++ [""])

end Catalogue.Command
