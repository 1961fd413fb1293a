import Catalogue.Proofs.Json.Reads

/-! # Written values read back

Whether a value is written without blanks or over several lines, its text is scanned as the value
itself, with every number as its own text is scanned. -/

namespace Catalogue.Json

/-! ## Numbers as scans -/

mutual
/-- A value, as a scan without faults in which each number is what `number` makes of it. -/
def scanWith (number : Number → Scan) : Json → Scan
  | .null => .null
  | .bool b => .bool b
  | .number n => number n
  | .string s => .string (some s)
  | .array items => .array (itemsWith number items) .closed
  | .object members => .object (membersWith number members) .closed

def itemsWith (number : Number → Scan) : List Json → List Scan
  | [] => []
  | item :: rest => scanWith number item :: itemsWith number rest

def membersWith (number : Number → Scan) : List (String × Json) → List (Option String × Scan)
  | [] => []
  | (name, value) :: rest => (some name, scanWith number value) :: membersWith number rest
end

mutual
/-- A value in memory is a scan that holds its numbers. -/
theorem ofJson_eq : (j : Json) → Scan.ofJson j = scanWith (fun n => .number (some n)) j
  | .null | .bool _ | .number _ | .string _ => rfl
  | .array items => by rw [Scan.ofJson, ofItems_eq items, scanWith]
  | .object members => by rw [Scan.ofJson, ofMembers_eq members, scanWith]

theorem ofItems_eq : (items : List Json) →
    Scan.ofItems items = itemsWith (fun n => .number (some n)) items
  | [] => rfl
  | item :: rest => by rw [Scan.ofItems, ofJson_eq item, ofItems_eq rest, itemsWith]

theorem ofMembers_eq : (members : List (String × Json)) →
    Scan.ofMembers members = membersWith (fun n => .number (some n)) members
  | [] => rfl
  | (name, value) :: rest => by
      rw [Scan.ofMembers, ofJson_eq value, ofMembers_eq rest, membersWith]
end

mutual
def EachNumber (p : Number → Prop) : Json → Prop
  | .number n => p n
  | .array items => EachOfItems p items
  | .object members => EachOfMembers p members
  | _ => True

def EachOfItems (p : Number → Prop) : List Json → Prop
  | [] => True
  | item :: rest => EachNumber p item ∧ EachOfItems p rest

def EachOfMembers (p : Number → Prop) : List (String × Json) → Prop
  | [] => True
  | (_, value) :: rest => EachNumber p value ∧ EachOfMembers p rest
end

/-! ## Texts of values -/

section Values

variable {number : Number → Scan}

mutual
/-- A value without blanks is scanned as it is, if its numbers are. -/
theorem reads_compact : (j : Json) → EachNumber (fun n => Reads n.text (number n)) j →
    Reads (compact j) (scanWith number j)
  | .null, _ => reads_null
  | .bool b, _ => reads_bool b
  | .number _, h => h
  | .string s, _ => reads_string s
  | .array [], _ => reads_emptyArray
  | .array (item :: rest), h => (reads_compactItems (item :: rest) nofun h).array
  | .object [], _ => reads_emptyObject
  | .object (member :: rest), h => (reads_compactMembers (member :: rest) nofun h).object

theorem reads_compactItems : (items : List Json) → items ≠ [] →
    EachOfItems (fun n => Reads n.text (number n)) items →
    ReadsItems (compactItems items) (itemsWith number items)
  | [], hne, _ => absurd rfl hne
  | [item], _, h => (reads_compact item h.1).last
  | item :: next :: rest, _, h =>
    (reads_compact item h.1).more (reads_compactItems (next :: rest) nofun h.2)

theorem reads_compactMembers : (members : List (String × Json)) → members ≠ [] →
    EachOfMembers (fun n => Reads n.text (number n)) members →
    ReadsMembers (compactMembers members) (membersWith number members)
  | [], hne, _ => absurd rfl hne
  | [(name, value)], _, h => .last name (reads_compact value h.1)
  | (name, value) :: next :: rest, _, h =>
    .more name (reads_compact value h.1) (reads_compactMembers (next :: rest) nofun h.2)
end

mutual
/-- A value over several lines is scanned as it is, if its numbers are. -/
theorem reads_indented (level : Nat) : (j : Json) → EachNumber (fun n => Reads n.text (number n)) j →
    Reads (indented level j) (scanWith number j)
  | .null, _ => reads_null
  | .bool true, _ => reads_bool true
  | .bool false, _ => reads_bool false
  | .number _, h => h
  | .string s, _ => reads_string s
  | .array [], _ => reads_emptyArray
  | .array (item :: rest), h => (reads_indentedItems level (item :: rest) nofun h).array
  | .object [], _ => reads_emptyObject
  | .object (member :: rest), h => (reads_indentedMembers level (member :: rest) nofun h).object

theorem reads_indentedItems (level : Nat) : (items : List Json) → items ≠ [] →
    EachOfItems (fun n => Reads n.text (number n)) items →
    ReadsItems (indentedItems level items) (itemsWith number items)
  | [], hne, _ => absurd rfl hne
  | [item], _, h =>
    (((reads_indented (level + 1) item h.1).after_blanks (isBlank_newLine (level + 1))).before_blanks
      (isBlank_newLine level)).last
  | item :: next :: rest, _, h =>
    ((reads_indented (level + 1) item h.1).after_blanks (isBlank_newLine (level + 1))).more
      (reads_indentedItems level (next :: rest) nofun h.2)

theorem reads_indentedMembers (level : Nat) : (members : List (String × Json)) → members ≠ [] →
    EachOfMembers (fun n => Reads n.text (number n)) members →
    ReadsMembers (indentedMembers level members) (membersWith number members)
  | [], hne, _ => absurd rfl hne
  | [(name, value)], _, h => by
      have hvalue := ((reads_indented (level + 1) value h.1).after_blanks isBlank_space).before_blanks
        (isBlank_newLine level)
      have hmember := ReadsMembers.after_blanks (.last name hvalue) (isBlank_newLine (level + 1))
      simpa [indentedMembers, membersWith] using hmember
  | (name, value) :: next :: rest, _, h => by
      have hvalue := (reads_indented (level + 1) value h.1).after_blanks isBlank_space
      have hmember := ReadsMembers.after_blanks
        (.more name hvalue (reads_indentedMembers level (next :: rest) nofun h.2))
        (isBlank_newLine (level + 1))
      simpa [indentedMembers, membersWith] using hmember
end

end Values

end Catalogue.Json
