import Catalogue.Toml.Scalar

/-!
# Quoted text in a document

Text stands between double quotes, where a backslash begins an escape, or between single quotes,
where nothing does. Three quotes allow line breaks. Controls other than tabs must be escaped.
-/

namespace Catalogue.Toml

/-- Whether a character may not stand in a document as it is, apart from line breaks. -/
def isControl (c : Char) : Bool := (c.toNat < 0x20 && c ≠ '\t') || c.toNat = 0x7F

/-- Whether a character is a blank inside a line. -/
def isSpace (c : Char) : Bool := c = ' ' || c = '\t'

/-- What an escape of one letter stands for. -/
def unescape? : Char → Option Char
  | 'b' => some '\x08'
  | 't' => some '\t'
  | 'n' => some '\n'
  | 'f' => some '\x0C'
  | 'r' => some '\r'
  | 'e' => some '\x1B'
  | '"' => some '"'
  | '\\' => some '\\'
  | _ => none

/-- How many hexadecimal digits follow a letter after a backslash. -/
def hexCount? : Char → Option Nat
  | 'x' => some 2
  | 'u' => some 4
  | 'U' => some 8
  | _ => none

/-- The character of a code point. -/
def scalar? (n : Nat) : Option Char := if h : n.isValidChar then some (Char.ofNatAux n h) else none

/-- Where the reading of text between double quotes is: at a character, after a backslash, inside
an escape with so many digits left, or passing over a break that a backslash hides. -/
inductive Escape where
  | none
  | begun
  | hex (left value : Nat)
  | hiding (brokeLine : Bool)

/-- One more digit of an escape, and the character if it was the last. -/
def Escape.push? (left value : Nat) (c : Char) : Option (Sum Escape Char) := do
  let d ← digit? 16 c
  let value := 16 * value + d
  if left = 1 then return .inr (← scalar? value) else return .inl (.hex (left - 1) value)

/-- Text that was read, and the text that follows it. -/
abbrev Piece := Option (List Char × List Char)

/-- Puts a character before a piece. -/
def Piece.cons (c : Char) (piece : Piece) : Piece := piece.map fun (cs, rest) => (c :: cs, rest)

/-- Text on one line up to a double quote. -/
def basic : Escape → List Char → Piece
  | _, [] => none
  | .none, c :: cs =>
    if c = '"' then some ([], cs)
    else if c = '\\' then basic .begun cs
    else if isControl c then none
    else Piece.cons c (basic .none cs)
  | .begun, c :: cs =>
    match unescape? c, hexCount? c with
    | some d, _ => Piece.cons d (basic .none cs)
    | none, some count => basic (.hex count 0) cs
    | none, none => none
  | .hex left value, c :: cs =>
    match Escape.push? left value c with
    | some (.inr d) => Piece.cons d (basic .none cs)
    | some (.inl e) => basic e cs
    | none => none
  | .hiding _, _ => none

/-- Text on one line up to a single quote. -/
def literal : List Char → Piece
  | [] => none
  | c :: cs =>
    if c = '\'' then some ([], cs)
    else if isControl c then none
    else Piece.cons c (literal cs)

/-- A run of quotes that ends a text of several lines: up to two belong to the text. -/
def closing (quote : Char) (cs : List Char) : Piece :=
  let run := (cs.take 5).takeWhile (· = quote)
  if 3 ≤ run.length then some (run.drop 3, cs.drop run.length) else none

/-- Text of several lines up to three double quotes. -/
def basicLines : Escape → List Char → Piece
  | _, [] => none
  | .none, '\r' :: '\n' :: cs => Piece.cons '\n' (basicLines .none cs)
  | .none, c :: cs =>
    match closing '"' (c :: cs) with
    | some found => some found
    | none =>
      if c = '\\' then basicLines .begun cs
      else if c ≠ '\n' && isControl c then none
      else Piece.cons c (basicLines .none cs)
  | .begun, '\r' :: '\n' :: cs => basicLines (.hiding true) cs
  | .begun, c :: cs =>
    if c = '\n' then basicLines (.hiding true) cs
    else if isSpace c then basicLines (.hiding false) cs
    else
      match unescape? c, hexCount? c with
      | some d, _ => Piece.cons d (basicLines .none cs)
      | none, some count => basicLines (.hex count 0) cs
      | none, none => none
  | .hex left value, c :: cs =>
    match Escape.push? left value c with
    | some (.inr d) => Piece.cons d (basicLines .none cs)
    | some (.inl e) => basicLines e cs
    | none => none
  | .hiding _, '\r' :: '\n' :: cs => basicLines (.hiding true) cs
  | .hiding broke, c :: cs =>
    if c = '\n' then basicLines (.hiding true) cs
    else if isSpace c then basicLines (.hiding broke) cs
    else if !broke then none
    else
      match closing '"' (c :: cs) with
      | some found => some found
      | none =>
        if c = '\\' then basicLines .begun cs
        else if isControl c then none
        else Piece.cons c (basicLines .none cs)

/-- Text of several lines up to three single quotes. -/
def literalLines : List Char → Piece
  | [] => none
  | '\r' :: '\n' :: cs => Piece.cons '\n' (literalLines cs)
  | c :: cs =>
    match closing '\'' (c :: cs) with
    | some found => some found
    | none => if c ≠ '\n' && isControl c then none else Piece.cons c (literalLines cs)

/-- A text without the line break it begins with. -/
def dropBreak : List Char → List Char
  | '\n' :: cs => cs
  | '\r' :: '\n' :: cs => cs
  | cs => cs

/-- Quoted text on one line. -/
def quotedLine : List Char → Piece
  | '"' :: cs => basic .none cs
  | '\'' :: cs => literal cs
  | _ => none

/-- Quoted text. -/
def quotedText : List Char → Piece
  | '"' :: '"' :: '"' :: cs => basicLines .none (dropBreak cs)
  | '\'' :: '\'' :: '\'' :: cs => literalLines (dropBreak cs)
  | cs => quotedLine cs

end Catalogue.Toml
