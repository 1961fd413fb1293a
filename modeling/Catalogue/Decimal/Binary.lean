/-!
# Binary floating-point words

A word is read as a sign and a magnitude: not a number, infinite, or `m · 2 ^ q`. Both widths in
use differ only in how many bits the exponent and the fraction have.
-/

namespace Catalogue.Decimal

/-- The field sizes of a floating-point word. -/
structure Width where
  exponentBits : Nat
  fractionBits : Nat
  deriving DecidableEq

/-- Words of 32 bits. -/
def Width.single : Width := ⟨8, 23⟩

/-- Words of 64 bits. -/
def Width.double : Width := ⟨11, 52⟩

/-- What a word stands for, apart from its sign. `narrow` marks the least significand of its
exponent, whose lower neighbour is half as far away as its upper one. -/
inductive Magnitude where
  | nan
  | infinite
  | finite (significand : Nat) (exponent : Int) (narrow : Bool)
  deriving DecidableEq

/-- A word taken apart. -/
structure Binary where
  negative : Bool
  magnitude : Magnitude
  deriving DecidableEq

/-- Takes a word of the given width apart. -/
def Binary.ofBits (w : Width) (bits : Nat) : Binary :=
  let fraction := bits % Nat.pow 2 w.fractionBits
  let exponent := bits / Nat.pow 2 w.fractionBits % Nat.pow 2 w.exponentBits
  let negative := bits / Nat.pow 2 (w.fractionBits + w.exponentBits) % 2 == 1
  let least : Int := 2 - Nat.pow 2 (w.exponentBits - 1) - w.fractionBits
  let magnitude :=
    if exponent = Nat.pow 2 w.exponentBits - 1 then
      if fraction = 0 then .infinite else .nan
    else if exponent = 0 then .finite fraction least false
    else
      .finite (Nat.pow 2 w.fractionBits + fraction) (least + exponent - 1)
        (fraction = 0 && 1 < exponent)
  ⟨negative, magnitude⟩

/-- Takes a 32-bit number apart. -/
def Binary.ofFloat32 (x : Float32) : Binary := .ofBits .single x.toBits.toNat

/-- Takes a 64-bit number apart. -/
def Binary.ofFloat (x : Float) : Binary := .ofBits .double x.toBits.toNat

end Catalogue.Decimal
