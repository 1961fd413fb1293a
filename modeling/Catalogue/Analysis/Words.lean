import Catalogue.Analysis.Language
import Catalogue.Text.Alphanumeric

/-!
# The words of a title

A title is cut into maximal runs of alphanumeric characters. Each run is put into lower case,
dropped when it is too long, and reduced to its stem.
-/

namespace Catalogue.Analysis

/-- The maximal runs of characters with a property; `run` is the run being read, latest character
first. -/
def runsFrom (p : Char → Bool) (run : List Char) : List Char → List (List Char)
  | [] => if run.isEmpty then [] else [run.reverse]
  | c :: rest =>
    if p c then runsFrom p (c :: run) rest
    else if run.isEmpty then runsFrom p [] rest
    else run.reverse :: runsFrom p [] rest

/-- The maximal runs of characters with a property. -/
def runs (p : Char → Bool) (cs : List Char) : List (List Char) := runsFrom p [] cs

/-- The size of a text in bytes. -/
def byteSize (cs : List Char) : Nat := (cs.flatMap String.utf8EncodeChar).length

/-- Words of this many bytes or more are dropped. -/
def longWord : Nat := 40

/-- The token of one run, unless it is too long. -/
def token? (stem : Stemmer) (run : List Char) : Option (List Char) :=
  let lowered := Text.lowercaseEach run
  if byteSize lowered < longWord then some (stem lowered) else none

/-- The tokens of a title. -/
def titleTokens (stem : Stemmer) (title : String) : List String :=
  ((runs Text.isAlphanumeric title.toList).filterMap (token? stem)).map String.ofList

end Catalogue.Analysis
