import Catalogue.Text.Blank

/-!
# Lines

A line ends with a line feed, before which a carriage return may stand. After the last line feed
there is a line only if something is left.
-/

namespace Catalogue.Text

/-- The pieces of a text between line feeds. There is always a first one. -/
def splitLines : List Char → List Char × List (List Char)
  | [] => ([], [])
  | c :: cs =>
    let (line, rest) := splitLines cs
    if c = '\n' then ([], line :: rest) else (c :: line, rest)

/-- A line without the carriage return at its end. -/
def dropReturn (line : List Char) : List Char :=
  if line.getLast? = some '\r' then line.dropLast else line

/-- The pieces of a text that line feeds end, and the rest if there is one. -/
def endedLines : List Char → List (List Char) → List (List Char)
  | line, [] => if line = [] then [] else [line]
  | line, next :: rest => dropReturn line :: endedLines next rest

/-- The lines of a text. -/
def lines (cs : List Char) : List (List Char) :=
  let (first, rest) := splitLines cs
  endedLines first rest

end Catalogue.Text
