import Catalogue.Decimal.Layout
import Catalogue.Toml.Document

/-!
# Writing documents

A document is written in blocks, with a blank line between two: first the members of the document
that are no tables, then each table under its header. A text is quoted in the plainest way that
can hold it.
-/

namespace Catalogue.Toml

/-! ## Quoting -/

/-- The length of the longest run of a character. -/
def longestRun (c : Char) (current best : Nat) : List Char → Nat
  | [] => best
  | d :: rest =>
    if d = c then longestRun c (current + 1) (max best (current + 1)) rest
    else longestRun c 0 best rest

/-- Ways to quote a text. -/
inductive Quoting where
  | basic
  | literal
  | basicLines
  | literalLines
  deriving DecidableEq, Repr

/-- The plainest quoting of a text: double quotes if nothing has to be escaped, then single ones,
then three of either; else it is escaped. -/
def Quoting.of (cs : List Char) : Quoting :=
  let hasBreak := cs.contains '\n'
  let hasControl := cs.any fun c => isControl c && c ≠ '\n'
  let hasBackslash := cs.contains '\\'
  let doubles := longestRun '"' 0 0 cs
  let singles := longestRun '\'' 0 0 cs
  if !hasControl && !hasBackslash && doubles = 0 && !hasBreak then basic
  else if !hasControl && singles = 0 && !hasBreak then literal
  else if !hasControl && !hasBackslash && doubles ≤ 2 then basicLines
  else if !hasControl && singles ≤ 2 then literalLines
  else if hasBreak then basicLines
  else basic

/-- The upper-case hexadecimal digits of a number, at least four. -/
def hexFour (n : Nat) : List Char :=
  let ds := (Nat.toDigits 16 n).map Char.toUpper
  List.replicate (4 - ds.length) '0' ++ ds

/-- A text with its escapes. In a text of several lines line breaks stand as they are, and quotes
are escaped only where three would meet; `quotes` counts those just before. -/
def escaped (hasLines : Bool) (quotes : Nat) : List Char → List Char
  | [] => []
  | c :: rest =>
    match c with
    | '\x08' => '\\' :: 'b' :: escaped hasLines 0 rest
    | '\t' => '\\' :: 't' :: escaped hasLines 0 rest
    | '\x0C' => '\\' :: 'f' :: escaped hasLines 0 rest
    | '\r' => '\\' :: 'r' :: escaped hasLines 0 rest
    | '\\' => '\\' :: '\\' :: escaped hasLines 0 rest
    | '\n' => if hasLines then '\n' :: escaped hasLines 0 rest
      else '\\' :: 'n' :: escaped hasLines 0 rest
    | '"' => if hasLines && quotes < 2 then '"' :: escaped hasLines (quotes + 1) rest
      else '\\' :: '"' :: escaped hasLines 0 rest
    | c => if isControl c then '\\' :: 'u' :: hexFour c.toNat ++ escaped hasLines 0 rest
      else c :: escaped hasLines 0 rest

/-- A text with quotes around it. The lines of a text begin below its first quotes. -/
def quote (cs : List Char) : List Char :=
  let start := if cs.contains '\n' then ['\n'] else []
  match Quoting.of cs with
  | .basic => '"' :: escaped false 0 cs ++ ['"']
  | .literal => '\'' :: cs ++ ['\'']
  | .basicLines => List.replicate 3 '"' ++ start ++ escaped true 0 cs ++ List.replicate 3 '"'
  | .literalLines => List.replicate 3 '\'' ++ start ++ cs ++ List.replicate 3 '\''

/-- A text with quotes around it. -/
def stringText (s : String) : String := String.ofList (quote s.toList)

/-- A name, with quotes if it needs them. -/
def nameText (name : String) : String :=
  if name ≠ "" && name.toList.all isNameChar then name else stringText name

/-! ## Values -/

mutual
/-- A value on one line. -/
def inlineText : Toml → String
  | .string s => stringText s
  | .integer n => Decimal.integer n
  | .float x => Decimal.Layout.toml.render (.ofFloat x)
  | .bool b => if b then "true" else "false"
  | .moment t => t
  | .array items => "[" ++ ", ".intercalate (inlineTexts items) ++ "]"
  | .table members =>
    if members.isEmpty then "\x7b\x7d"
    else "\x7b " ++ ", ".intercalate (inlineMembers members) ++ " \x7d"

/-- Values, each on one line. -/
def inlineTexts : List Toml → List String
  | [] => []
  | v :: rest => inlineText v :: inlineTexts rest

/-- Members, each on one line. -/
def inlineMembers : List (String × Toml) → List String
  | [] => []
  | (name, v) :: rest => (nameText name ++ " = " ++ inlineText v) :: inlineMembers rest
end

/-- A value after its name. A list of several items has a line for each. -/
def memberText : Toml → String
  | .array (a :: b :: rest) =>
    let lines := (inlineTexts (a :: b :: rest)).map fun s => "    " ++ s ++ ",\n"
    "[\n" ++ String.join lines ++ "]"
  | v => inlineText v

/-! ## Blocks -/

/-- Whether a value is a table. -/
def isTable : Toml → Bool
  | .table _ => true
  | _ => false

/-- Whether a value is written under headers: a table, or a list of tables only. -/
def hasHeader : Toml → Bool
  | .table _ => true
  | .array items => !items.isEmpty && items.all isTable
  | _ => false

/-- The part of a document under one header: the names that lead to its table, whether that is one
of a list, and the members that have no header of their own. -/
structure Block where
  path : List String
  isNext : Bool
  members : List (String × Toml)

/-- The block of a table, unless all its members have headers. -/
def Block.ofTable (path : List String) (members : List (String × Toml)) : List Block :=
  if members.isEmpty || members.any (fun m => !hasHeader m.2) then
    [⟨path, false, members.filter fun m => !hasHeader m.2⟩]
  else []

/-- The block of one table of a list. -/
def Block.ofElement (path : List String) (members : List (String × Toml)) : Block :=
  ⟨path, true, members.filter fun m => !hasHeader m.2⟩

mutual
/-- The blocks of a value at the end of a path. -/
def blocksAt (path : List String) : Toml → List Block
  | .table members => Block.ofTable path members ++ blocksOf path members
  | .array items => if hasHeader (.array items) then blocksOfList path items else []
  | _ => []

/-- The blocks of members. -/
def blocksOf (path : List String) : List (String × Toml) → List Block
  | [] => []
  | (name, v) :: rest => blocksAt (path ++ [name]) v ++ blocksOf path rest

/-- The blocks of one table of a list. -/
def blocksOfElement (path : List String) : Toml → List Block
  | .table members => Block.ofElement path members :: blocksOf path members
  | _ => []

/-- The blocks of a list of tables. -/
def blocksOfList (path : List String) : List Toml → List Block
  | [] => []
  | v :: rest => blocksOfElement path v ++ blocksOfList path rest
end

/-- The header of a block. The members of the document itself have none. -/
def Block.header (b : Block) : String :=
  let path := ".".intercalate (b.path.map nameText)
  if b.path.isEmpty then "" else if b.isNext then "[[" ++ path ++ "]]\n" else "[" ++ path ++ "]\n"

/-- A block as text. -/
def Block.text (b : Block) : String :=
  b.header ++ String.join (b.members.map fun m => nameText m.1 ++ " = " ++ memberText m.2 ++ "\n")

/-- A document as text. -/
def text (members : List (String × Toml)) : String :=
  let own := members.filter fun m => !hasHeader m.2
  let blocks := (if own.isEmpty then [] else [⟨[], false, own⟩]) ++ blocksOf [] members
  "\n".intercalate (blocks.map Block.text)

end Catalogue.Toml
