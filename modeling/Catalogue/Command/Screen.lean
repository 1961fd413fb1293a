import Catalogue.Analysis.Language
import Catalogue.Files.Tree

/-!
# What a command shows and leaves

A command answers with lines for its two outputs, says whether it succeeded, and leaves a tree of
files.
-/

namespace Catalogue.Command

/-- What a command runs in: the files, the directory it was started in, the home directory, its
input, and the stemmers that the program was built with. -/
structure Setting where
  tree : Tree
  dir : Path
  home : Option Path
  input : String
  stemmers : Analysis.Stemmers

/-- What a command leaves: whether it succeeded, the lines it printed and those it printed as
errors, and the files. -/
structure Outcome where
  succeeds : Bool
  lines : List String
  errors : List String
  tree : Tree

namespace Setting

/-- Success, with lines. -/
def done (s : Setting) (lines : List String) : Outcome := ⟨true, lines, [], s.tree⟩

/-- Failure, with lines printed as errors. -/
def fail (s : Setting) (errors : List String) : Outcome := ⟨false, [], errors, s.tree⟩

/-- The text that an argument stands for: the input for a dash, else that of a file. -/
def readArgument (s : Setting) (argument : String) : Except FileError String :=
  if argument = "-" then .ok s.input
  else if argument = "" then .error .notFound
  else s.tree.readText (s.dir.join ⟨argument⟩)

end Setting

namespace Outcome

/-- Prints lines before all others. -/
def after (lines : List String) (o : Outcome) : Outcome := { o with lines := lines ++ o.lines }

/-- Prints lines as errors before all others. -/
def afterErrors (errors : List String) (o : Outcome) : Outcome :=
  { o with errors := errors ++ o.errors }

end Outcome

/-! ## Colours -/

/-- Text between the code of a style and the code that ends all styles. -/
def styled (code : String) (text : String) : String :=
  "\x1b[" ++ code ++ "m" ++ text ++ "\x1b[0m"

/-- Bold text, for headings. -/
def bold (text : String) : String := styled "1" text

/-- Dim text, for asides. -/
def dim (text : String) : String := styled "2" text

/-- Yellow text, for warnings. -/
def yellow (text : String) : String := styled "33" text

/-- A line below a heading. -/
def indent (line : String) : String := "   " ++ line

/-- The text of lines. -/
def unlines (lines : List String) : String := String.join (lines.map fun line => line ++ "\n")

end Catalogue.Command
