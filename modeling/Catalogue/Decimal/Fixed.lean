import Catalogue.Decimal.Layout

/-!
# Numbers with a fixed number of places
-/

namespace Catalogue.Decimal

/-- The whole number nearest to a quotient. A half goes to the even neighbour. -/
def roundQuotient (a b : Nat) : Nat :=
  let q := a / b
  let r := a % b
  if 2 * r < b || (2 * r = b && q % 2 = 0) then q else q + 1

/-- The number `m · 2 ^ q` in units of `10 ^ -places`, rounded. -/
def inUnits (places m : Nat) (q : Int) : Nat :=
  let scaled := m * Nat.pow 10 places
  if q < 0 then roundQuotient scaled (Nat.pow 2 q.natAbs) else scaled * Nat.pow 2 q.toNat

/-- So many units of `10 ^ -places` in decimal digits. -/
def unitsText (places units : Nat) : List Char :=
  let digits := Nat.toDigits 10 units
  let digits := List.replicate (places + 1 - digits.length) '0' ++ digits
  let whole := digits.length - places
  digits.take whole ++ if places = 0 then [] else '.' :: digits.drop whole

/-- A number with a fixed number of places, rounded. -/
def fixed (places : Nat) (x : Binary) : String :=
  let sign := if x.negative then ['-'] else []
  match x.magnitude with
  | .nan => "NaN"
  | .infinite => String.ofList (sign ++ ['i', 'n', 'f'])
  | .finite m q _ => String.ofList (sign ++ unitsText places (inUnits places m q))

end Catalogue.Decimal
