/-!
# The first settings file

A new settings file spells out the defaults, with comments, and keeps the index on disk.
-/

namespace Catalogue

/-- The lines of a new settings file. -/
def Settings.templateLines : List String := [
  "# quarry configuration",
  "#",
  "# Settings in this file apply to this directory and everything below it.",
  "# Closer files take precedence; ~/.quarry.toml is consulted last.",
  "",
  "# Stop looking for configuration in parent directories.",
  "root = false",
  "",
  "[index]",
  "# Index directory, relative to this file. Leave unset for an in-memory index.",
  "path = \"./index\"",
  "# Stemming language for the title analyzer.",
  "language = \"english\"",
  "# Writer heap budget in bytes.",
  "heap_size = 50000000",
  "",
  "[search]",
  "# Hits returned when no limit is given.",
  "default_limit = 10",
  "# Scoring binding whose value becomes each document's score.",
  "score = \"weird_score\"",
  "",
  "# Leaf bindings read one stored field of the current document.",
  "# kind is one of: string, strings, bytes, bytes_list",
  "[[scoring.leaf]]",
  "name = \"title\"",
  "field = \"title\"",
  "kind = \"string\"",
  "",
  "[[scoring.leaf]]",
  "name = \"isbn\"",
  "field = \"isbn\"",
  "kind = \"string\"",
  "",
  "# Derived bindings apply a named function to earlier bindings, in order.",
  "# Functions: length, sum, product, count, constant_score",
  "[[scoring.derived]]",
  "name = \"title_length\"",
  "function = \"length\"",
  "inputs = [\"title\"]",
  "",
  "[[scoring.derived]]",
  "name = \"isbn_length\"",
  "function = \"length\"",
  "inputs = [\"isbn\"]",
  "",
  "[[scoring.derived]]",
  "name = \"weird_score\"",
  "function = \"sum\"",
  "inputs = [\"title_length\", \"isbn_length\"]"
]

/-- A new settings file. -/
def Settings.template : String :=
  String.join (Settings.templateLines.map fun line => line ++ "\n")

end Catalogue
