import Catalogue.Json.Basic

/-!
# Reading JSON text

A reader of typed data meets a fault of the text only where its reading arrives: a wrong type
before the fault is the first problem, and a number too large is none in a member that is passed
over. So a text is first scanned into a tree that keeps its fault in place, and the tree is total:
every text has one.
-/

namespace Catalogue.Json

/-- What is wrong with a text: it ends too early, or it is not JSON. -/
inductive Fault where
  | truncated
  | malformed
  deriving DecidableEq, Repr

/-- A fault, as each kind of reading reports it: one that wants the value, one that passes over
it, and one that wants a tag. -/
structure Break where
  wanted : Fault
  skipped : Fault
  tag : Fault
  deriving DecidableEq

/-- How a list of items ends: with its bracket, or with a fault, as a reading reports it that
asks for another item, one that passes over them, and one that wants the bracket. -/
inductive Close where
  | closed
  | broken (next skipped stop : Fault)
  deriving DecidableEq

/-- A text scanned as far as it is JSON. A number out of range has no value, nor has a string with
half a surrogate pair. `misnamed` is an object in which, after some members, a value other than a
string stands where a name belongs. -/
inductive Scan where
  | null
  | bool (b : Bool)
  | number (n : Option Number)
  | string (s : Option String)
  | array (items : List Scan) (close : Close)
  | object (members : List (Option String × Scan)) (close : Close)
  | misnamed (members : List (Option String × Scan)) (name : Scan)
  | broken (at_ : Break)

namespace Scan

/-- A fault that every reading reports alike. -/
def faulty (f : Fault) : Scan := .broken ⟨f, f, f⟩

/-- A fault inside a literal, which is no tag whatever follows. -/
def faultyLiteral (f : Fault) : Scan := .broken ⟨f, f, .malformed⟩

/-- Whether the scan went on after this value. -/
def isWhole : Scan → Bool
  | array _ close | object _ close => close = .closed
  | misnamed .. | broken _ => false
  | _ => true

/-! ## Blanks and literals -/

/-- The blanks of JSON. -/
def isBlank (c : Char) : Bool := c = ' ' || c = '\n' || c = '\t' || c = '\r'

/-- What follows the blanks. -/
def dropBlanks (cs : List Char) : List Char := cs.dropWhile isBlank

/-- Removes the rest of a literal. -/
def literal (value : Scan) : List Char → List Char → Scan × List Char
  | [], cs => (value, cs)
  | _ :: _, [] => (faultyLiteral .truncated, [])
  | l :: ls, c :: cs => if l = c then literal value ls cs else (faultyLiteral .malformed, cs)

/-! ## Numbers -/

/-- The decimal digit that a character is. -/
def digit? (c : Char) : Option Nat := if c.isDigit then some (c.toNat - '0'.toNat) else none

/-- The digits at the front of a text, and what follows them. -/
def digits (cs : List Char) : List Nat × List Char :=
  ((cs.takeWhile Char.isDigit).filterMap digit?, cs.dropWhile Char.isDigit)

/-- A significand of 64 bits and the power of ten to scale it by. `full` says that a digit found
no room. -/
structure Significand where
  value : Nat
  power : Int
  full : Bool

/-- Takes in a digit before the point. Without room for it, it only scales. -/
def Significand.pushWhole (s : Significand) (d : Nat) : Significand :=
  if s.full || UInt64.size ≤ s.value * 10 + d then ⟨s.value, s.power + 1, true⟩
  else ⟨s.value * 10 + d, s.power, false⟩

/-- Takes in a digit after the point. Without room for it, it and all further ones are dropped. -/
def Significand.pushFraction (s : Significand) (d : Nat) : Significand :=
  if s.full || UInt64.size ≤ s.value * 10 + d then ⟨s.value, s.power, true⟩
  else ⟨s.value * 10 + d, s.power - 1, false⟩

/-- Ten to a power up to 308, to the nearest 64-bit number. -/
def powerOfTen (n : Nat) : Float := Float.ofScientific 1 false n

/-- Scales down by 10^308 until the power has an entry in the table of powers; `none` when the
number is too large. -/
def scale (x : Float) (power : Int) : Nat → Option Float
  | 0 => some x
  | more + 1 =>
    if power.natAbs ≤ 308 then
      if 0 ≤ power then
        let y := x * powerOfTen power.natAbs
        if y.isInf then none else some y
      else some (x / powerOfTen power.natAbs)
    else if x == 0 then some x
    else if 0 ≤ power then none
    else scale (x / powerOfTen 308) (power + 308) more

/-- The number with this significand and scale. Two steps down take every significand to zero. -/
def Significand.toFloat? (s : Significand) (power : Int) (isNegative : Bool) : Option Number :=
  (scale s.value.toUInt64.toFloat power 8).map fun x => .double (if isNegative then -x else x)

/-- The least power that does not fit 32 bits with its sign. -/
def powerLimit : Nat := 0x80000000

/-- The value of a number from its parts. Without a point or an exponent it is an integer if it
fits 64 bits and is not a negated zero. -/
def numberValue (isNegative : Bool) (whole : List Nat) (fraction : Option (List Nat))
    (exponent : Option (Bool × List Nat)) : Option Number :=
  let w := whole.foldl Significand.pushWhole ⟨0, 0, false⟩
  match fraction, exponent with
  | none, none =>
    if w.full then w.toFloat? w.power isNegative
    else if !isNegative then some (.natural w.value.toUInt64)
    else if w.value = 0 || 0x8000000000000000 < w.value then
      some (.double (-w.value.toUInt64.toFloat))
    else some (.negative (Int64.ofInt (-w.value)))
  | _, _ =>
    let s := (fraction.getD []).foldl Significand.pushFraction ⟨w.value, w.power, false⟩
    match exponent with
    | none => s.toFloat? s.power isNegative
    | some (down, ds) =>
      let e := ds.foldl (fun n d => n * 10 + d) 0
      if powerLimit ≤ e then
        if s.value ≠ 0 && !down then none
        else some (.double (if isNegative then -0.0 else 0.0))
      else s.toFloat? (if down then s.power - e else s.power + e) isNegative

/-- A fault after the start of a number: the text ends there, or something else stands there. -/
def numberFault (rest : List Char) : Scan × List Char :=
  (faultyLiteral (if rest.isEmpty then .truncated else .malformed), rest)

/-- Reads the exponent, if there is one, and finishes the number. -/
def numberExponent (isNegative : Bool) (whole : List Nat) (fraction : Option (List Nat)) :
    List Char → Scan × List Char
  | c :: cs =>
    if c = 'e' || c = 'E' then
      let (down, cs) := match cs with
        | '+' :: cs => (false, cs)
        | '-' :: cs => (true, cs)
        | cs => (false, cs)
      match digits cs with
      | ([], rest) => numberFault rest
      | (ds, rest) => (.number (numberValue isNegative whole fraction (some (down, ds))), rest)
    else (.number (numberValue isNegative whole fraction none), c :: cs)
  | [] => (.number (numberValue isNegative whole fraction none), [])

/-- Reads a number after its sign. A leading zero stands alone. -/
def numberAt (isNegative : Bool) (cs : List Char) : Scan × List Char :=
  match digits cs with
  | ([], rest) => numberFault rest
  | (0 :: _ :: _, rest) => (faultyLiteral .malformed, rest)
  | (whole, '.' :: rest) =>
    match digits rest with
    | ([], rest) => numberFault rest
    | (fraction, rest) => numberExponent isNegative whole (some fraction) rest
  | (whole, rest) => numberExponent isNegative whole none rest

/-! ## Strings -/

/-- Where the scan of a string stands: among plain characters, after a backslash, or inside a
`\u` escape with `left` digits to come, perhaps after the first half of a surrogate pair. -/
inductive Mode where
  | plain
  | escaped
  | hex (left : Nat) (value : Nat) (lead : Option Nat)
  | afterLead (lead : Nat)
  | afterLeadEscape (lead : Nat)

/-- The character a backslash and a letter stand for. -/
def simpleEscape? (c : Char) : Option Char :=
  match c with
  | '"' => some '"'
  | '\\' => some '\\'
  | '/' => some '/'
  | 'b' => some '\x08'
  | 'f' => some '\x0c'
  | 'n' => some '\n'
  | 'r' => some '\r'
  | 't' => some '\t'
  | _ => none

/-- The hexadecimal digit that a character is. -/
def hexDigit? (c : Char) : Option Nat :=
  if c.isDigit then some (c.toNat - '0'.toNat)
  else if 'a' ≤ c && c ≤ 'f' then some (c.toNat - 'a'.toNat + 10)
  else if 'A' ≤ c && c ≤ 'F' then some (c.toNat - 'A'.toNat + 10)
  else none

/-- Whether at least `n` bytes of text are left. -/
def hasBytes : Nat → List Char → Bool
  | 0, _ => true
  | _ + 1, [] => false
  | n + 1, c :: cs => hasBytes (n + 1 - c.utf8Size) cs

/-- The scan of a string: its characters so far, latest first, and whether a half surrogate pair
has left it without a value. -/
structure Partial where
  chars : List Char
  valid : Bool

/-- Takes in a code unit from an escape; `none` for the first half of a pair. -/
def Partial.pushUnit (p : Partial) (n : Nat) (lead : Option Nat) : Partial :=
  match lead with
  | none =>
    if 0xDC00 ≤ n && n ≤ 0xDFFF then { p with valid := false }
    else { p with chars := Char.ofNat n :: p.chars }
  | some l =>
    if 0xDC00 ≤ n && n ≤ 0xDFFF then
      { p with chars := Char.ofNat (0x10000 + (l - 0xD800) * 0x400 + (n - 0xDC00)) :: p.chars }
    else { p with valid := false }

/-- A string that breaks off. -/
def Partial.broken (p : Partial) (f : Fault) : Break :=
  let wanted := if p.valid then f else .malformed
  ⟨wanted, f, wanted⟩

/-- A finished string. -/
def Partial.result (p : Partial) : Option String :=
  if p.valid then some (String.ofList p.chars.reverse) else none

/-- Scans a string up to its closing quote. -/
def stringFrom (mode : Mode) (p : Partial) :
    List Char → Except Break (Option String × List Char)
  | [] => .error (p.broken .truncated)
  | c :: cs =>
    match mode with
    | .plain =>
      if c = '"' then .ok (p.result, cs)
      else if c = '\\' then stringFrom .escaped p cs
      else if c.toNat < 0x20 then .error (p.broken .malformed)
      else stringFrom .plain { p with chars := c :: p.chars } cs
    | .escaped =>
      if c = 'u' then stringFrom (.hex 4 0 none) p cs
      else match simpleEscape? c with
        | some e => stringFrom .plain { p with chars := e :: p.chars } cs
        | none => .error (p.broken .malformed)
    | .hex left value lead =>
      match hexDigit? c with
      | none => .error (p.broken (if hasBytes left (c :: cs) then .malformed else .truncated))
      | some d =>
        let value := value * 16 + d
        if left ≤ 1 then
          if lead.isNone && 0xD800 ≤ value && value ≤ 0xDBFF then stringFrom (.afterLead value) p cs
          else stringFrom .plain (p.pushUnit value lead) cs
        else stringFrom (.hex (left - 1) value lead) p cs
    | .afterLead lead =>
      if c = '\\' then stringFrom (.afterLeadEscape lead) p cs
      else if c = '"' then .ok (none, cs)
      else if c.toNat < 0x20 then .error ({ p with valid := false }.broken .malformed)
      else stringFrom .plain { p with valid := false } cs
    | .afterLeadEscape lead =>
      if c = 'u' then stringFrom (.hex 4 0 (if p.valid then some lead else none)) p cs
      else match simpleEscape? c with
        | some _ => stringFrom .plain { p with valid := false } cs
        | none => .error ({ p with valid := false }.broken .malformed)

/-- Scans a string after its opening quote. -/
def stringAt (cs : List Char) : Except Break (Option String × List Char) :=
  stringFrom .plain ⟨[], true⟩ cs

/-! ## Values -/

mutual
/-- Scans a value. The first argument bounds the nesting and the number of items. -/
def value : Nat → List Char → Scan × List Char
  | 0, cs => (faulty .malformed, cs)
  | fuel + 1, cs =>
    match dropBlanks cs with
    | [] => (faulty .truncated, [])
    | c :: rest =>
      if c = '"' then
        match stringAt rest with
        | .ok (s, rest) => (.string s, rest)
        | .error b => (.broken b, [])
      else if c = '[' then
        match dropBlanks rest with
        | [] => (.array [] (.broken .truncated .truncated .truncated), [])
        | ']' :: rest => (.array [] .closed, rest)
        | rest =>
          let (items, close, rest) := items fuel rest
          (.array items close, rest)
      else if c = '\x7b' then
        match dropBlanks rest with
        | '\x7d' :: rest => (.object [] .closed, rest)
        | rest => members fuel [] rest
      else if c = 't' then literal (.bool true) ['r', 'u', 'e'] rest
      else if c = 'f' then literal (.bool false) ['a', 'l', 's', 'e'] rest
      else if c = 'n' then literal .null ['u', 'l', 'l'] rest
      else if c = '-' then numberAt true rest
      else if c.isDigit then numberAt false (c :: rest)
      else (faulty .malformed, c :: rest)

/-- Scans the items of an array, of which there is one more. -/
def items : Nat → List Char → List Scan × Close × List Char
  | 0, cs => ([faulty .malformed], .closed, cs)
  | fuel + 1, cs =>
    let (item, rest) := value fuel cs
    if item.isWhole then
      match dropBlanks rest with
      | [] => ([item], .broken .truncated .truncated .truncated, [])
      | ']' :: rest => ([item], .closed, rest)
      | ',' :: rest =>
        match dropBlanks rest with
        | [] => ([item], .broken .truncated .truncated .malformed, [])
        | ']' :: rest => ([item], .broken .malformed .malformed .malformed, rest)
        | rest =>
          let (others, close, rest) := items fuel rest
          (item :: others, close, rest)
      | rest => ([item], .broken .malformed .malformed .malformed, rest)
    else ([item], .closed, rest)

/-- Scans the members of an object, of which there is one more, after those found so far (latest
first). -/
def members : Nat → List (Option String × Scan) → List Char → Scan × List Char
  | 0, found, cs => (.misnamed found.reverse (faulty .malformed), cs)
  | fuel + 1, found, cs =>
    match dropBlanks cs with
    | [] =>
      -- Only a comma can stand before the end here, or nothing but the opening brace.
      let stop := if found.isEmpty then Fault.truncated else .malformed
      (.object found.reverse (.broken .truncated .truncated stop), [])
    | c :: rest =>
      if c = '"' then
        match stringAt rest with
        | .error b => (.object found.reverse (.broken b.wanted b.skipped .malformed), [])
        | .ok (name, rest) =>
          match dropBlanks rest with
          | [] => (.object ((name, faulty .truncated) :: found).reverse .closed, [])
          | ':' :: rest =>
            let (item, rest) := value fuel rest
            let found := (name, item) :: found
            if item.isWhole then
              match dropBlanks rest with
              | [] =>
                (.object found.reverse (.broken .truncated .truncated .truncated), [])
              | '\x7d' :: rest => (.object found.reverse .closed, rest)
              | ',' :: rest =>
                match dropBlanks rest with
                | '\x7d' :: rest =>
                  (.object found.reverse (.broken .malformed .malformed .malformed), rest)
                | rest => members fuel found rest
              | rest => (.object found.reverse (.broken .malformed .malformed .malformed), rest)
            else (.object found.reverse .closed, rest)
          | rest => (.object ((name, faulty .malformed) :: found).reverse .closed, rest)
      else
        let (name, rest) := value fuel (c :: rest)
        (.misnamed found.reverse name, rest)
end

/-- A whole text: its first value, and whether anything but blanks follows it. -/
structure Document where
  value : Scan
  trailing : Bool

/-- Scans a whole text. -/
def ofText (s : String) : Document :=
  let cs := s.toList
  let (v, rest) := value (2 * cs.length + 2) cs
  ⟨v, !(dropBlanks rest).isEmpty⟩

/-! ## Values as scans, and back -/

mutual
/-- A value, as a scan without faults. -/
def ofJson : Json → Scan
  | .null => .null
  | .bool b => .bool b
  | .number n => .number (some n)
  | .string s => .string (some s)
  | .array items => .array (ofItems items) .closed
  | .object members => .object (ofMembers members) .closed

/-- The items of an array. -/
def ofItems : List Json → List Scan
  | [] => []
  | item :: rest => ofJson item :: ofItems rest

/-- The members of an object. -/
def ofMembers : List (String × Json) → List (Option String × Scan)
  | [] => []
  | (name, value) :: rest => (some name, ofJson value) :: ofMembers rest
end

mutual
/-- The value that a scan without faults stands for. Members are in the order of their names, each
the last of its name. -/
def toJson? : Scan → Option Json
  | null => some .null
  | bool b => some (.bool b)
  | number n => n.map .number
  | string s => s.map .string
  | array items .closed => (toItems? items).map .array
  | object members .closed => (toMembers? members).map fun ms => .object (sortMembers ms)
  | _ => none

/-- The items of an array without faults. -/
def toItems? : List Scan → Option (List Json)
  | [] => some []
  | item :: rest => do
    let item ← toJson? item
    let rest ← toItems? rest
    return item :: rest

/-- The members of an object without faults. -/
def toMembers? : List (Option String × Scan) → Option (List (String × Json))
  | [] => some []
  | (name, value) :: rest => do
    let name ← name
    let value ← toJson? value
    let rest ← toMembers? rest
    return (name, value) :: rest
end

end Scan

/-- Reads a whole text as one value, if it is JSON. -/
def ofText? (s : String) : Option Json :=
  let d := Scan.ofText s
  if d.trailing then none else d.value.toJson?

end Catalogue.Json
