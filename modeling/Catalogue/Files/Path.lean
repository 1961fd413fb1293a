/-!
# Paths

A path is kept as it is written, and its parts say where it leads: parts that are empty or `.`
lead nowhere, save a `.` that begins a relative path.
-/

namespace Catalogue

/-- A path, as it is written. -/
structure Path where
  text : String
  deriving DecidableEq, Repr

namespace Path

/-- The pieces of a text between slashes. There is always a first one. -/
def pieces : List Char → List Char × List (List Char)
  | [] => ([], [])
  | c :: cs =>
    let (piece, rest) := pieces cs
    if c = '/' then ([], piece :: rest) else (c :: piece, rest)

/-- Whether a piece of a path leads nowhere. -/
def isIdle (piece : List Char) : Bool := piece = [] || piece = ['.']

/-- Whether a path begins at the root. -/
def isAbsolute (p : Path) : Bool := p.text.toList.head? = some '/'

/-- The parts of a path: where it begins, which is the root for an absolute path and no part for
most relative ones, and the names that follow. -/
def parts (p : Path) : List String :=
  let (first, rest) := pieces p.text.toList
  let names := (rest.filter fun piece => !isIdle piece).map String.ofList
  if p.isAbsolute then "/" :: names else if first = [] then names else String.ofList first :: names

/-- Whether two paths have the same parts. -/
def same (p q : Path) : Bool := p.parts = q.parts

/-- Whether a path leads to the place of another one, or below it. -/
def isBelow (p base : Path) : Bool := base.parts.isPrefixOf p.parts

/-- A path seen from a directory. An absolute path is the same from everywhere. -/
def join (base p : Path) : Path :=
  if p.isAbsolute then p
  else if base.text = "" || base.text.toList.getLast? = some '/' then ⟨base.text ++ p.text⟩
  else ⟨base.text ++ "/" ++ p.text⟩

/-- Pieces, last one first, without those at the end that lead nowhere. -/
def dropIdle (reversed : List (List Char)) : List (List Char) := reversed.dropWhile isIdle

/-- The text of pieces with slashes between them. -/
def ofPieces : List (List Char) → List Char
  | [] => []
  | [piece] => piece
  | piece :: rest => piece ++ '/' :: ofPieces rest

/-- The directory that holds what a path leads to. The root has none, nor has the empty path. -/
def parent? (p : Path) : Option Path :=
  let (first, rest) := pieces p.text.toList
  match dropIdle rest.reverse with
  | _ :: before =>
    let kept := (dropIdle before).reverse
    some ⟨String.ofList (if first = [] && kept = [] then ['/'] else ofPieces (first :: kept))⟩
  | [] => if first = [] then none else some ⟨""⟩

/-- A path and the directories above it, closest first. -/
def ancestors (p : Path) : List Path :=
  climb p.text.length p
where
  /-- Goes up at most so many directories. -/
  climb : Nat → Path → List Path
    | 0, p => [p]
    | steps + 1, p =>
      match p.parent? with
      | some dir => p :: climb steps dir
      | none => [p]

end Path

end Catalogue
