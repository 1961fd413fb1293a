import Catalogue.Toml.Basic

/-!
# Words that are values

Numbers, truth values, dates and times are written as one word each. A word is read as a whole, so
that what is left of it never stands for something else.
-/

namespace Catalogue.Toml

/-! ## Digits -/

/-- The digit that a character is in some radix up to sixteen. -/
def digit? (radix : Nat) (c : Char) : Option Nat :=
  let n := c.toNat
  let d :=
    if 0x30 ≤ n && n ≤ 0x39 then n - 0x30
    else if 0x41 ≤ n && n ≤ 0x46 then n - 0x37
    else if 0x61 ≤ n && n ≤ 0x66 then n - 0x57
    else radix
  if d < radix then some d else none

/-- The digits of a number, most significant first. Between two digits an underscore may stand. -/
def digits? (radix : Nat) : List Char → Option (List Nat)
  | [] => none
  | [c] => (digit? radix c).map fun d => [d]
  | c :: '_' :: rest => do return (← digit? radix c) :: (← digits? radix rest)
  | c :: rest => do return (← digit? radix c) :: (← digits? radix rest)

/-- The number that digits make. -/
def ofDigits (radix : Nat) (ds : List Nat) : Nat := ds.foldl (fun n d => radix * n + d) 0

/-- The number that digits in a radix make. -/
def number? (radix : Nat) (cs : List Char) : Option Nat := (digits? radix cs).map (ofDigits radix)

/-- The digits of a decimal number, which begins with zero only if it is zero. -/
def decimal? (cs : List Char) : Option (List Nat) :=
  (digits? 10 cs).filter fun ds => ds.head? ≠ some 0 || ds.length = 1

/-- A word without its sign, and whether the sign is a minus. -/
def splitSign : List Char → Bool × List Char
  | '+' :: rest => (false, rest)
  | '-' :: rest => (true, rest)
  | cs => (false, cs)

/-- The integers that a document can hold. -/
def isInRange (n : Int) : Bool := -Int.pow 2 127 ≤ n && n < Int.pow 2 128

/-- An integer, if it is in range. -/
def ofInt? (n : Int) : Option Toml := if isInRange n then some (.integer n) else none

/-- The number `digits * 10 ^ exponent`, if it is finite. -/
def ofScientific? (ds : List Nat) (exponent : Int) : Option Float :=
  let magnitude := (ds.dropWhile (· = 0)).length + exponent
  let x :=
    if magnitude < -400 || ds.all (· = 0) then 0
    else if 400 < magnitude then 1 / 0
    else Float.ofScientific (ofDigits 10 ds) (exponent < 0) exponent.natAbs
  if x.isFinite then some x else none

/-- A word split at the first character of a kind, which is dropped. -/
def splitAt? (p : Char → Bool) (cs : List Char) : List Char × Option (List Char) :=
  match cs.dropWhile fun c => !p c with
  | [] => (cs, none)
  | _ :: rest => (cs.takeWhile fun c => !p c, some rest)

/-- The exponent of a number. -/
def exponent? (cs : List Char) : Option Int :=
  let (isNegative, cs) := splitSign cs
  (number? 10 cs).map fun n => if isNegative then -(n : Int) else n

/-- A number with a fraction, an exponent or both. -/
def float? (cs : List Char) : Option Float := do
  let (isNegative, cs) := splitSign cs
  let (significand, power) := splitAt? (fun c => c = 'e' || c = 'E') cs
  let (whole, fraction) := splitAt? (· = '.') significand
  let exponent ← match power with
    | some power => exponent? power
    | none => some 0
  let before ← decimal? whole
  let after ← match fraction with
    | some fraction => digits? 10 fraction
    | none => some []
  let x ← ofScientific? (before ++ after) (exponent - after.length)
  return if isNegative then -x else x

/-- A decimal integer. -/
def integer? (cs : List Char) : Option Toml := do
  let (isNegative, cs) := splitSign cs
  let ds ← decimal? cs
  let n := ofDigits 10 ds
  ofInt? (if isNegative then -(n : Int) else n)

/-- A number. -/
def ofNumber? (cs : List Char) : Option Toml :=
  match cs with
  | '0' :: 'x' :: rest => (number? 16 rest).bind fun n => ofInt? n
  | '0' :: 'o' :: rest => (number? 8 rest).bind fun n => ofInt? n
  | '0' :: 'b' :: rest => (number? 2 rest).bind fun n => ofInt? n
  | _ =>
    let (isNegative, unsigned) := splitSign cs
    if unsigned = "inf".toList then some (.float (if isNegative then -1 / 0 else 1 / 0))
    else if unsigned = "nan".toList then some (.float (0 / 0))
    else if cs.any fun c => c = '.' || c = 'e' || c = 'E' then (float? cs).map .float
    else integer? cs

/-! ## Dates and times -/

/-- A number of so many digits at the beginning of a word, and the rest. -/
def field? (count : Nat) (cs : List Char) : Option (Nat × List Char) :=
  let cs' := cs.take count
  if cs'.length = count && cs'.all Char.isDigit then
    (number? 10 cs').map fun n => (n, cs.drop count)
  else none

/-- The rest of a word after a character of a kind. -/
def after? (p : Char → Bool) : List Char → Option (List Char)
  | c :: rest => if p c then some rest else none
  | [] => none

/-- The number of days of a month. -/
def daysOf (year month : Nat) : Nat :=
  if month = 2 then
    if year % 4 = 0 && (year % 100 ≠ 0 || year % 400 = 0) then 29 else 28
  else if month = 4 || month = 6 || month = 9 || month = 11 then 30
  else 31

/-- The rest of a word after a date. -/
def date? (cs : List Char) : Option (List Char) := do
  let (year, cs) ← field? 4 cs
  let (month, cs) ← field? 2 (← after? (· = '-') cs)
  let (day, cs) ← field? 2 (← after? (· = '-') cs)
  if 1 ≤ month && month ≤ 12 && 1 ≤ day && day ≤ daysOf year month then some cs else none

/-- The rest of a word after the fraction of a second. -/
def fraction? (cs : List Char) : Option (List Char) :=
  match cs with
  | '.' :: rest =>
    if (rest.takeWhile Char.isDigit).isEmpty then none else some (rest.dropWhile Char.isDigit)
  | _ => some cs

/-- The rest of a word after a time. Seconds may be left out. -/
def time? (cs : List Char) : Option (List Char) := do
  let (hour, cs) ← field? 2 cs
  let (minute, cs) ← field? 2 (← after? (· = ':') cs)
  if 23 < hour || 59 < minute then none
  else
    match cs with
    | ':' :: cs => do
      let (second, cs) ← field? 2 cs
      if second ≤ 60 then fraction? cs else none
    | _ => some cs

/-- The rest of a word after an offset from universal time, if there is one. -/
def offset? (cs : List Char) : Option (List Char) :=
  match cs with
  | 'Z' :: rest | 'z' :: rest => some rest
  | '+' :: rest | '-' :: rest => do
    let (hour, rest) ← field? 2 rest
    let (minute, rest) ← field? 2 (← after? (· = ':') rest)
    if hour ≤ 23 && minute ≤ 59 then some rest else none
  | _ => some cs

/-- Whether a character divides a date from a time. -/
def isDivider (c : Char) : Bool := c = 'T' || c = 't' || c = ' '

/-- Whether a word is a date, a time or both. -/
def isMoment (cs : List Char) : Bool :=
  match date? cs with
  | some [] => true
  | some (c :: rest) => isDivider c && ((time? rest).bind offset?) = some []
  | none => time? cs = some []

/-- Whether a word is written like a date. -/
def looksLikeDate (cs : List Char) : Bool := (cs.take 4).all Char.isDigit && cs[4]? = some '-'

/-- Whether a word is written like a time. -/
def looksLikeTime (cs : List Char) : Bool := (cs.take 2).all Char.isDigit && cs[2]? = some ':'

/-! ## Words -/

/-- The value that a word is. -/
def ofWord? (cs : List Char) : Option Toml :=
  if cs = "true".toList then some (.bool true)
  else if cs = "false".toList then some (.bool false)
  else if looksLikeDate cs || looksLikeTime cs then
    if isMoment cs then some (.moment (String.ofList cs)) else none
  else ofNumber? cs

/-- Whether a character can be part of a word. -/
def isWordChar (c : Char) : Bool :=
  c.isAlphanum || c = '_' || c = '+' || c = '-' || c = '.' || c = ':'

/-- Splits a text after its first word. One blank does not end a date that a time follows. -/
def splitWord (cs : List Char) : List Char × List Char :=
  let word := cs.takeWhile isWordChar
  let rest := cs.dropWhile isWordChar
  match rest with
  | ' ' :: c :: _ =>
    if looksLikeDate word && word.length = 10 && c.isDigit then
      let time := rest.tail.takeWhile isWordChar
      (word ++ ' ' :: time, rest.tail.dropWhile isWordChar)
    else (word, rest)
  | _ => (word, rest)

end Catalogue.Toml
