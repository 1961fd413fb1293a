import Catalogue.Decimal.Layout
import Catalogue.Json.Basic

/-!
# JSON text

Values are written without blanks, or over several lines with two blanks per level.
-/

namespace Catalogue.Json

/-- A number in decimal; one that is not finite has no JSON number and is written `null`. -/
def Number.text : Number → List Char
  | natural n => Nat.toDigits 10 n.toNat
  | negative n => (Decimal.integer n.toInt).toList
  | double x => if x.isFinite then (Decimal.Layout.json.render (.ofFloat x)).toList else "null".toList
  | single x =>
    if x.isFinite then (Decimal.Layout.jsonSingle.render (.ofFloat32 x)).toList else "null".toList

/-- A character inside a JSON string. -/
def escapeChar (c : Char) : List Char :=
  match c with
  | '"' => ['\\', '"']
  | '\\' => ['\\', '\\']
  | '\x08' => ['\\', 'b']
  | '\x0c' => ['\\', 'f']
  | '\n' => ['\\', 'n']
  | '\r' => ['\\', 'r']
  | '\t' => ['\\', 't']
  | _ =>
    if c.toNat < 0x20 then
      ['\\', 'u', '0', '0', Nat.digitChar (c.toNat / 16), Nat.digitChar (c.toNat % 16)]
    else [c]

/-- A string in quotes. -/
def stringText (s : String) : List Char := '"' :: s.toList.flatMap escapeChar ++ ['"']

mutual
/-- A value without blanks. -/
def compact : Json → List Char
  | null => "null".toList
  | bool true => "true".toList
  | bool false => "false".toList
  | number n => n.text
  | string s => stringText s
  | array items => '[' :: compactItems items
  | object members => '\x7b' :: compactMembers members

/-- The items of an array and its closing bracket. -/
def compactItems : List Json → List Char
  | [] => [']']
  | [item] => compact item ++ [']']
  | item :: rest => compact item ++ ',' :: compactItems rest

/-- The members of an object and its closing brace. -/
def compactMembers : List (String × Json) → List Char
  | [] => ['\x7d']
  | [(name, value)] => stringText name ++ ':' :: compact value ++ ['\x7d']
  | (name, value) :: rest =>
    stringText name ++ ':' :: compact value ++ ',' :: compactMembers rest
end

/-- A new line with the blanks of its level. -/
def newLine (level : Nat) : List Char := '\n' :: List.replicate (2 * level) ' '

mutual
/-- A value over several lines, its own closing bracket `level` levels in. -/
def indented (level : Nat) : Json → List Char
  | array [] => ['[', ']']
  | array items => '[' :: indentedItems level items
  | object [] => ['\x7b', '\x7d']
  | object members => '\x7b' :: indentedMembers level members
  | null => "null".toList
  | bool true => "true".toList
  | bool false => "false".toList
  | number n => n.text
  | string s => stringText s

/-- The items of an array, each on a line of its own, and the closing bracket. -/
def indentedItems (level : Nat) : List Json → List Char
  | [] => newLine level ++ [']']
  | [item] => newLine (level + 1) ++ indented (level + 1) item ++ newLine level ++ [']']
  | item :: rest =>
    newLine (level + 1) ++ indented (level + 1) item ++ ',' :: indentedItems level rest

/-- The members of an object, each on a line of its own, and the closing brace. -/
def indentedMembers (level : Nat) : List (String × Json) → List Char
  | [] => newLine level ++ ['\x7d']
  | [(name, value)] =>
    newLine (level + 1) ++ stringText name ++ [':', ' '] ++ indented (level + 1) value ++
      newLine level ++ ['\x7d']
  | (name, value) :: rest =>
    newLine (level + 1) ++ stringText name ++ [':', ' '] ++ indented (level + 1) value ++
      ',' :: indentedMembers level rest
end

/-- The text of a value without blanks. -/
def text (j : Json) : String := String.ofList (compact j)

/-- The text of a value over several lines. -/
def prettyText (j : Json) : String := String.ofList (indented 0 j)

end Catalogue.Json
