import Catalogue.Decimal.Shortest

/-!
# How numbers are written

One record says how a decimal is laid out: which of two equally near decimals is taken, which
magnitudes are written positionally, whether a whole number keeps `.0`, and how an exponent and the
numbers that are not finite are spelt.
-/

namespace Catalogue.Decimal

/-- A way to write numbers. A number whose leading digit stands at the power of ten `p` is
positional when `leastPower ≤ p` and `p ≤ greatestPower`, where given. -/
structure Layout where
  tie : Tie
  leastPower : Option Int
  greatestPower : Option Int
  keepsPoint : Bool
  plusExponent : Bool
  nan : String
  infinite : String

/-- Plain text: never an exponent, and no point in a whole number. -/
def Layout.plain : Layout := ⟨.up, none, none, false, false, "NaN", "inf"⟩

/-- Diagnostic text: positional from a ten-thousandth to below 10^16, with a point throughout. -/
def Layout.diagnostic : Layout := ⟨.up, some (-4), some 15, true, false, "NaN", "inf"⟩

/-- JSON text of 64-bit numbers. -/
def Layout.json : Layout := ⟨.even, some (-5), some 15, true, true, "NaN", "inf"⟩

/-- JSON text of 32-bit numbers. -/
def Layout.jsonSingle : Layout := ⟨.even, some (-6), some 12, true, true, "NaN", "inf"⟩

/-- TOML text: never an exponent, with a point throughout. -/
def Layout.toml : Layout := ⟨.up, none, none, true, false, "nan", "inf"⟩

/-- Whether a leading digit at this power of ten is written positionally. -/
def Layout.isPositional (l : Layout) (power : Int) : Bool :=
  (l.leastPower.all (· ≤ power)) && (l.greatestPower.all (power ≤ ·))

/-- The text of `0.digits · 10 ^ point`, positionally. -/
def Layout.positional (l : Layout) (digits : List Char) (point : Int) : List Char :=
  let whole := point.toNat
  if digits.length ≤ point then
    digits ++ List.replicate (whole - digits.length) '0' ++ if l.keepsPoint then ['.', '0'] else []
  else if 0 < point then digits.take whole ++ '.' :: digits.drop whole
  else ['0', '.'] ++ List.replicate (-point).toNat '0' ++ digits

/-- The text of `d.digits · 10 ^ (power - (d.length - 1))` with an exponent. -/
def Layout.scientific (l : Layout) (digits : List Char) (power : Int) : List Char :=
  let mantissa := match digits with
    | [] => []
    | [d] => [d]
    | d :: rest => d :: '.' :: rest
  let sign := if power < 0 then ['-'] else if l.plusExponent then ['+'] else []
  mantissa ++ 'e' :: sign ++ Nat.toDigits 10 power.natAbs

/-- The text of a decimal other than zero. -/
def Layout.decimal (l : Layout) (d : Scaled) : List Char :=
  let digits := Nat.toDigits 10 d.digits
  let power := digits.length + d.exponent - 1
  if l.isPositional power then l.positional digits (power + 1) else l.scientific digits power

/-- The text of a number. Only a number that is finite or infinite has a sign. -/
def Layout.render (l : Layout) (x : Binary) : String :=
  let sign := if x.negative then ['-'] else []
  match x.magnitude with
  | .nan => l.nan
  | .infinite => String.ofList sign ++ l.infinite
  | .finite 0 _ _ => String.ofList (sign ++ if l.keepsPoint then ['0', '.', '0'] else ['0'])
  | .finite m q narrow => String.ofList (sign ++ l.decimal (shortest l.tie m q narrow))

/-- A 32-bit number as plain text. -/
def plain32 (x : Float32) : String := Layout.plain.render (.ofFloat32 x)

/-- A 64-bit number as plain text. -/
def plain (x : Float) : String := Layout.plain.render (.ofFloat x)

/-- A natural number in decimal digits. -/
def natural (n : Nat) : String := String.ofList (Nat.toDigits 10 n)

/-- A whole number in decimal digits. -/
def integer (n : Int) : String :=
  if n < 0 then "-" ++ natural n.natAbs else natural n.natAbs

end Catalogue.Decimal
