import Catalogue.Toml.Section
import Catalogue.Toml.Strings

/-!
# Reading documents

A document is a sequence of lines. A line adds a value under a name, or its header says which table
the next lines add to. Lists and tables can be written in place, too.
-/

namespace Catalogue.Toml

/-! ## Blanks -/

/-- The text after blanks inside a line. -/
def skipSpace (cs : List Char) : List Char := cs.dropWhile isSpace

/-- The text after the rest of a line, which may be a comment only. -/
def endLine (inComment : Bool) : List Char → Option (List Char)
  | [] => some []
  | '\n' :: cs => some cs
  | '\r' :: '\n' :: cs => some cs
  | c :: cs =>
    if inComment then if isControl c then none else endLine true cs
    else if c = '#' then endLine true cs
    else if isSpace c then endLine false cs
    else none

/-- The text after blanks, line breaks and comments. -/
def skipBlank (inComment : Bool) : List Char → Option (List Char)
  | [] => some []
  | '\n' :: cs => skipBlank false cs
  | '\r' :: '\n' :: cs => skipBlank false cs
  | c :: cs =>
    if inComment then if isControl c then none else skipBlank true cs
    else if c = '#' then skipBlank true cs
    else if isSpace c then skipBlank false cs
    else some (c :: cs)

/-! ## Names -/

/-- Whether a character can stand in a name without quotes. -/
def isNameChar (c : Char) : Bool := c.isAlphanum || c = '_' || c = '-'

/-- A name, with quotes or without. -/
def name (cs : List Char) : Option (String × List Char) :=
  match cs with
  | '"' :: _ | '\'' :: _ => (quotedLine cs).map fun (s, rest) => (String.ofList s, rest)
  | _ =>
    let word := cs.takeWhile isNameChar
    if word.isEmpty then none else some (String.ofList word, cs.dropWhile isNameChar)

/-- At most so many names with dots between them: all but the last, and the last. -/
def names : Nat → List Char → Option ((List String × String) × List Char)
  | 0, _ => none
  | count + 1, cs => do
    let (first, cs) ← name (skipSpace cs)
    match skipSpace cs with
    | '.' :: cs => do
      let ((path, last), cs) ← names count cs
      return ((first :: path, last), cs)
    | cs => return (([], first), cs)

/-- Names with dots between them. -/
def dotted (cs : List Char) : Option ((List String × String) × List Char) := names cs.length cs

/-! ## Values -/

/-- A reader of a value. -/
abbrev ValueReader := List Char → Option (Toml × List Char)

/-- At most so many items of a list, up to its bracket. -/
def items (value : ValueReader) : Nat → List Char → Option (List Toml × List Char)
  | 0, _ => none
  | count + 1, cs => do
    match ← skipBlank false cs with
    | ']' :: cs => return ([], cs)
    | cs => do
      let (v, cs) ← value cs
      match ← skipBlank false cs with
      | ',' :: cs => do
        let (vs, cs) ← items value count cs
        return (v :: vs, cs)
      | ']' :: cs => return ([v], cs)
      | _ => none

/-- A value with the dotted name before it. -/
def entry (value : ValueReader) (cs : List Char) :
    Option ((List String × String × Toml) × List Char) := do
  let ((path, last), cs) ← dotted cs
  match cs with
  | '=' :: cs => do
    let (v, cs) ← value (skipSpace cs)
    return ((path, last, v), cs)
  | _ => none

/-- At most so many members of a table in place, up to its brace. -/
def members (value : ValueReader) :
    Nat → Section.Members → List Char → Option (Section.Members × List Char)
  | 0, _, _ => none
  | count + 1, found, cs => do
    match ← skipBlank false cs with
    | '\x7d' :: cs => return (found, cs)
    | cs => do
      let ((path, last, v), cs) ← entry value cs
      let found ← Section.addAt path last v .declared found
      match ← skipBlank false cs with
      | ',' :: cs => members value count found cs
      | '\x7d' :: cs => return (found, cs)
      | _ => none

/-- A value with at most so many brackets around any part of it. -/
def value : Nat → ValueReader
  | depth, cs =>
    match cs with
    | '"' :: _ | '\'' :: _ => (quotedText cs).map fun (s, rest) => (.string (String.ofList s), rest)
    | '[' :: cs =>
      match depth with
      | 0 => none
      | depth + 1 =>
        (items (value depth) (cs.length + 1) cs).map fun (vs, rest) => (.array vs, rest)
    | '\x7b' :: cs =>
      match depth with
      | 0 => none
      | depth + 1 =>
        (members (value depth) (cs.length + 1) [] cs).map fun (ms, rest) =>
          (.table (Section.membersToToml ms), rest)
    | cs =>
      let (word, rest) := splitWord cs
      (ofWord? word).map fun v => (v, rest)

/-- How many brackets may stand around a value. -/
def mostBrackets : Nat := 80

/-! ## Lines -/

/-- A document as far as it was read: its members, and the names of the table that lines add to. -/
structure Draft where
  found : Section.Members
  header : List String

/-- What a header says, up to its last bracket. -/
def header (cs : List Char) : Option ((Bool × List String × String) × List Char) :=
  match cs with
  | '[' :: cs => do
    match ← dotted cs with
    | ((path, last), ']' :: ']' :: cs) => return ((true, path, last), cs)
    | _ => none
  | _ => do
    match ← dotted cs with
    | ((path, last), ']' :: cs) => return ((false, path, last), cs)
    | _ => none

/-- Reads a line that is not blank. -/
def line (d : Draft) (cs : List Char) : Option (Draft × List Char) :=
  match cs with
  | '[' :: cs => do
    let ((isNext, path, last), cs) ← header cs
    let change := if isNext then Section.declareNext last else Section.declare last
    let found ← Section.within .implied change path .declared d.found
    return (⟨found, path ++ [last]⟩, cs)
  | _ => do
    let ((path, last, v), cs) ← entry (value mostBrackets) cs
    let found ← Section.within .implied (Section.addAt path last v) d.header .declared d.found
    return ({ d with found }, cs)

/-- Reads at most so many lines. -/
def lines : Nat → Draft → List Char → Option Draft
  | 0, _, _ => none
  | count + 1, d, cs => do
    match ← skipBlank false cs with
    | [] => return d
    | cs => do
      let (d, cs) ← line d cs
      lines count d (← endLine false cs)

/-- Reads a document. A mark of the byte order may stand before it. -/
def ofText? (text : String) : Option Toml := do
  let cs := match text.toList with
    | '\uFEFF' :: cs => cs
    | cs => cs
  let d ← lines (cs.length + 1) ⟨[], []⟩ cs
  return .table (Section.membersToToml d.found)

end Catalogue.Toml
