import Catalogue.Proofs.Float.Packing

/-! # Products of numbers of 32 bits

Factors can be swapped, and one leaves a number as it is: the bits that the mantissa of one brings
are zeros, which rounding takes back, and a number is packed into the word it was unpacked from.
Three factors need not associate. -/

namespace Catalogue

open Float.Model
open Float.Model.UnpackedFloat (Accuracy ExtendedMantissa Sign packComponents unpackSign
  unpackExponent unpackMantissa)

/-! ## Swapping factors -/

theorem sign_mul_comm (s t : Sign) : s * t = t * s := by
  cases s <;> cases t <;> rfl

theorem sign_mul_positive (s : Sign) : s * .positive = s := by
  cases s <;> rfl

theorem unpacked_mul_comm (S : Format) (u v : UnpackedFloat) :
    UnpackedFloat.mul S u v = UnpackedFloat.mul S v u := by
  cases u <;> cases v
  case finite.finite s m d _ t n e _ =>
    change UnpackedFloat.roundWithAccuracy S (s * t) (m * n) (d + e) .exact =
      UnpackedFloat.roundWithAccuracy S (t * s) (n * m) (e + d) .exact
    rw [sign_mul_comm, Nat.mul_comm, Int.add_comm]
  all_goals first | rfl | exact congrArg _ (sign_mul_comm _ _)

theorem score_mul_comm (x y : Float32) : x * y = y * x :=
  congrArg (fun u => Float32.ofModel (.pack u)) (unpacked_mul_comm _ _ _)

/-! ## Words -/

/-- A word is made of its sign, its exponent and its mantissa. -/
theorem packComponents_unpack {S : Format} (bits : BitVec S.numBits) :
    packComponents S (.ofBitVec (unpackSign bits)) (unpackExponent bits) (unpackMantissa bits) =
      bits := by
  have hsign : (Sign.ofBitVec (unpackSign bits)).toBitVec = unpackSign bits := by
    rcases BitVec.eq_zero_or_eq_one (unpackSign bits) with h | h <;> rw [h] <;> rfl
  have hm := S.hm
  have he := S.he
  rw [packComponents, hsign]
  delta unpackSign
  ext i hi
  simp only [unpackExponent, unpackMantissa, BitVec.getElem_append, BitVec.getElem_cast,
    BitVec.extractLsb, BitVec.getElem_extractLsb']
  rw [← BitVec.getLsbD_eq_getElem]
  split
  · exact congrArg bits.getLsbD (by omega)
  · split
    · exact congrArg bits.getLsbD (by omega)
    · exact congrArg bits.getLsbD (by omega)

theorem packComponents_eq {S : Format} {bits : BitVec S.numBits} {e : BitVec S.exponentBits}
    {m : BitVec S.mantissaBitsWithoutImplicit} (he : e = unpackExponent bits)
    (hm : m = unpackMantissa bits) :
    packComponents S (.ofBitVec (unpackSign bits)) e m = bits := by
  rw [he, hm, packComponents_unpack]

theorem log2_lt_of_mantissa (m : BitVec 23) : m.toNat.log2 < 23 := by
  by_cases hm : m.toNat = 0
  · rw [hm]
    decide
  · exact (Nat.log2_lt hm).mpr m.isLt

/-- A valid word is packed again as it was. -/
theorem pack_unpack {bits : BitVec Format.binary32.numBits} (h : Format.binary32.Valid bits) :
    UnpackedFloat.pack .binary32 (.unpack .binary32 bits) = bits := by
  have hbias : (Format.binary32.exponentBias : Int) = 127 := rfl
  have hexponent : (unpackExponent bits).toNat < 256 := (unpackExponent bits).isLt
  have hunpacks := unpacks_unpack bits
  generalize UnpackedFloat.unpack .binary32 bits = u at *
  cases hunpacks with
  | infinity hones hnone => exact packComponents_eq hones.symm hnone.symm
  | notANumber hones hsome => exact (h.eq_packedNaN hones hsome).symm
  | zero hzero hnone => exact packComponents_eq hzero.symm hnone.symm
  | subnormal _ hzero =>
      have hlog := log2_lt_of_mantissa (unpackMantissa bits)
      rw [pack_finite, hzero, if_neg (by decide), if_neg (by change ¬_ + 1 = 24; omega)]
      exact packComponents_eq hzero.symm ((BitVec.ofNat_toNat _ _).trans (BitVec.setWidth_eq _))
  | normal _ hones _ =>
      have hbelow : (unpackExponent bits).toNat ≠ 255 := fun hvalue =>
        hones (BitVec.eq_of_toNat_eq hvalue)
      have hlog := log2_implicit (unpackMantissa bits)
      have hbiased : ((unpackExponent bits).toNat - ((Format.binary32.exponentBias : Int) +
          (Format.binary32.mantissaBitsWithoutImplicit : Int)) + Format.binary32.exponentBias +
          Format.binary32.mantissaBitsWithoutImplicit).toNat = (unpackExponent bits).toNat := by
        omega
      rw [pack_finite, hbiased, if_neg (by change ¬256 ≤ _; omega), if_pos (by rw [hlog]; rfl)]
      refine packComponents_eq ((BitVec.ofNat_toNat _ _).trans (BitVec.setWidth_eq _))
        (BitVec.eq_of_toNat_eq ?_)
      rw [BitVec.toNat_ofNat, toNat_implicit, Nat.add_mod_left, Nat.mod_eq_of_lt (BitVec.isLt _)]

/-! ## One -/

/-- The exponent is that of the magnitude. -/
def IsRounded (S : Format) (m : Nat) (e : Int) : Prop :=
  e = S.targetExponent (totalExponent m e)

/-- What is unpacked is rounded. -/
theorem isRounded_of_unpack {bits : BitVec Format.binary32.numBits} {s : Sign} {m : Nat} {e : Int}
    {hm : 0 < m} (h : UnpackedFloat.unpack .binary32 bits = .finite s m e hm) :
    IsRounded .binary32 m e := by
  have hbias : (Format.binary32.exponentBias : Int) = 127 := rfl
  have hbits : Format.binary32.mantissaBitsWithoutImplicit = 23 := rfl
  have htarget : ∀ total, Format.binary32.targetExponent total = max (total - 24) (-149) :=
    fun _ => rfl
  rw [IsRounded, htarget, totalExponent]
  have hunpacks := unpacks_unpack bits
  rw [h] at hunpacks
  cases hunpacks with
  | subnormal _ hzero =>
      have hexponent : (unpackExponent bits).toNat = 0 := by
        rw [hzero]
        rfl
      have hlog := log2_lt_of_mantissa (unpackMantissa bits)
      omega
  | normal _ _ hzero =>
      have hexponent : (unpackExponent bits).toNat ≠ 0 := fun hvalue =>
        hzero (BitVec.eq_of_toNat_eq hvalue)
      have hlog : (1#1 ++ unpackMantissa bits).toNat.log2 = 23 := log2_implicit _
      omega

theorem shiftRight_exact (m k : Nat) :
    (⟨m * 2 ^ k, false, false⟩ : ExtendedMantissa) >>> k = ⟨m, false, false⟩ := by
  change Nat.repeat ExtendedMantissa.shiftRightOne k _ = _
  induction k generalizing m with
  | zero => rw [Nat.pow_zero, Nat.mul_one, Nat.repeat]
  | succ k ih =>
      have heven : (⟨m * 2, false, false⟩ : ExtendedMantissa).shiftRightOne = ⟨m, false, false⟩ := by
        simp [ExtendedMantissa.shiftRightOne]
      rw [Nat.repeat, Nat.pow_succ', ← Nat.mul_assoc, ih, heven]

theorem log2_scaled {m : Nat} (hm : 0 < m) (k : Nat) : (m * 2 ^ k).log2 = m.log2 + k := by
  induction k with
  | zero => rw [Nat.pow_zero, Nat.mul_one, Nat.add_zero]
  | succ k ih =>
      have hne : m * 2 ^ k ≠ 0 := Nat.ne_of_gt (Nat.mul_pos hm (Nat.two_pow_pos k))
      rw [Nat.pow_succ', Nat.mul_left_comm, Nat.log2_two_mul hne, ih, Nat.add_assoc]

theorem totalExponent_scaled {m : Nat} (hm : 0 < m) (k : Nat) (e : Int) :
    totalExponent (m * 2 ^ k) (e - k) = totalExponent m e := by
  rw [totalExponent, totalExponent, log2_scaled hm]
  omega

/-- Zeros behind a rounded mantissa are rounded away. -/
theorem shiftToTargetExponent_scaled {S : Format} {m : Nat} {e : Int} (hm : 0 < m)
    (h : IsRounded S m e) (k : Nat) :
    UnpackedFloat.shiftToTargetExponent S (m * 2 ^ k) (e - k) .exact = (⟨m, false, false⟩, e) := by
  have hshift : (S.targetExponent (totalExponent (m * 2 ^ k) (e - k)) - (e - k)).toNat = k := by
    rw [totalExponent_scaled hm, ← h]
    omega
  rw [UnpackedFloat.shiftToTargetExponent, UnpackedFloat.shiftToExponent, hshift,
    ExtendedMantissa.ofMantissaAndAccuracy, shiftRight_exact]
  exact Prod.ext rfl (by change e - k + k = e; omega)

theorem roundWithAccuracy_scaled {S : Format} {m : Nat} {e : Int} (hm : 0 < m)
    (h : IsRounded S m e) (s : Sign) (k : Nat) :
    UnpackedFloat.roundWithAccuracy S s (m * 2 ^ k) (e - k) .exact = .finite s m e hm := by
  have hagain := shiftToTargetExponent_scaled hm h 0
  rw [Nat.pow_zero, Nat.mul_one, Int.natCast_zero, Int.sub_zero] at hagain
  have hrounded : rounded S (m * 2 ^ k) (e - k) .exact = (⟨m, false, false⟩, e) := by
    rw [rounded, shiftToTargetExponent_scaled hm h k]
    exact hagain
  have hcases := roundWithAccuracy_cases S s (m * 2 ^ k) (e - k) .exact
  rw [hrounded] at hcases
  rcases hcases with ⟨hzero, _⟩ | ⟨_, hfinite⟩
  · exact absurd hzero (Nat.ne_of_gt hm)
  · exact hfinite

/-- Multiplying by one leaves a number as it is. -/
theorem score_mul_one (x : Float32) : x * 1.0 = x := by
  have hone : (1.0 : Float32).toModel.unpack = .finite .positive (2 ^ 23) (-23) (by decide) := rfl
  have hmul : UnpackedFloat.mul .binary32 x.toModel.unpack (1.0 : Float32).toModel.unpack =
      x.toModel.unpack := by
    rw [hone]
    cases h : x.toModel.unpack with
    | notANumber => rfl
    | infinity s => exact congrArg UnpackedFloat.infinity (sign_mul_positive s)
    | zero s => exact congrArg UnpackedFloat.zero (sign_mul_positive s)
    | finite s m e hm =>
        change UnpackedFloat.roundWithAccuracy .binary32 (s * .positive) _ _ .exact = _
        rw [sign_mul_positive]
        exact roundWithAccuracy_scaled hm (isRounded_of_unpack h) s 23
  obtain ⟨⟨bits, hvalid⟩⟩ := x
  have hpack := pack_unpack hvalid
  change Float32.ofModel (.pack (UnpackedFloat.mul .binary32 _ _)) = _
  rw [hmul]
  have hword :
      UInt32.ofBitVec (UnpackedFloat.pack .binary32 (.unpack .binary32 bits.toBitVec)) = bits :=
    congrArg UInt32.ofBitVec hpack
  exact congrArg Float32.ofModel ((Float32.Model.mk.injEq _ _ _ _).mpr hword)

theorem score_one_mul (x : Float32) : 1.0 * x = x := by
  rw [score_mul_comm, score_mul_one]

end Catalogue
