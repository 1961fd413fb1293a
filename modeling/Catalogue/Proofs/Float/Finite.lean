import Catalogue.Proofs.Float.Packing

/-! # Finite numbers of 64 bits

A number is finite if its exponent is not above 971. Rounding raises an exponent only as far as the
magnitude of the number asks for. So natural numbers of 64 bits are finite, and a finite number stays
finite when its sign is changed and when it is divided by ten or more. -/

namespace Catalogue

open Float.Model
open Float.Model.UnpackedFloat (Accuracy ExtendedMantissa)

/-! ## Rounding -/

theorem shiftRight_mantissa (em : ExtendedMantissa) (k : Nat) :
    (em >>> k).mantissa = em.mantissa / 2 ^ k := by
  change (Nat.repeat ExtendedMantissa.shiftRightOne k em).mantissa = _
  induction k with
  | zero => simp [Nat.repeat]
  | succ k ih =>
      rw [Nat.repeat, ExtendedMantissa.shiftRightOne, ih, Nat.div_div_eq_div_mul, Nat.pow_succ]

theorem roundedMantissa_le (em : ExtendedMantissa) : em.roundedMantissa ≤ em.mantissa + 1 := by
  obtain ⟨m, round, sticky⟩ := em
  cases round <;> cases sticky <;>
    simp [ExtendedMantissa.roundedMantissa, ExtendedMantissa.accuracy, Accuracy.roundToNearestEven]
  omega

theorem ofMantissaAndAccuracy_mantissa (m : Nat) (accuracy : Accuracy) :
    (ExtendedMantissa.ofMantissaAndAccuracy m accuracy).mantissa = m := by
  rcases accuracy with _ | _ | _ | _ <;> rfl

theorem targetExponent_eq (total : Int) :
    Format.binary64.targetExponent total = max (total - 53) (-1074) := rfl

/-- Shifting raises the exponent to the target, if it is below. -/
theorem shiftToTargetExponent_exponent (m : Nat) (e : Int) (accuracy : Accuracy) :
    (UnpackedFloat.shiftToTargetExponent .binary64 m e accuracy).2 =
      max e (max (totalExponent m e - 53) (-1074)) := by
  change e + ((Format.binary64.targetExponent (totalExponent m e) - e).toNat : Int) = _
  rw [targetExponent_eq]
  omega

theorem shiftToTargetExponent_mantissa (m : Nat) (e : Int) (accuracy : Accuracy) :
    (UnpackedFloat.shiftToTargetExponent .binary64 m e accuracy).1.mantissa =
      m / 2 ^ (max (totalExponent m e - 53) (-1074) - e).toNat := by
  simp only [UnpackedFloat.shiftToTargetExponent, UnpackedFloat.shiftToExponent,
    shiftRight_mantissa, ofMantissaAndAccuracy_mantissa, targetExponent_eq]

theorem log2_le_of_le {m k : Nat} (h : m ≤ 2 ^ k) : m.log2 ≤ k := by
  by_cases hm : m = 0
  · rw [hm]
    exact Nat.zero_le k
  · have hlt : m < 2 ^ (k + 1) := Nat.lt_of_le_of_lt h (Nat.pow_lt_pow_right (by decide) (by omega))
    exact Nat.le_of_lt_succ ((Nat.log2_lt hm).mpr hlt)

/-- A rounded mantissa has at most one bit more than what is left of it. -/
theorem log2_rounded_le (m k : Nat) (em : ExtendedMantissa) (h : em.mantissa = m / 2 ^ k) :
    em.roundedMantissa.log2 ≤ m.log2 + 1 - k := by
  have hrounded := roundedMantissa_le em
  refine log2_le_of_le (Nat.le_trans hrounded ?_)
  have hm : m < 2 ^ (m.log2 + 1) := Nat.lt_log2_self
  have hquotient : m / 2 ^ k < 2 ^ (m.log2 + 1 - k) := by
    rw [Nat.div_lt_iff_lt_mul (Nat.two_pow_pos k), ← Nat.pow_add]
    exact Nat.lt_of_lt_of_le hm (Nat.pow_le_pow_right (by decide) (by omega))
  omega

/-- A number below a bound that leaves room for rounding is rounded to one that fits. -/
theorem roundWithAccuracy_within {m : Nat} {e : Int} (htotal : totalExponent m e ≤ 1021)
    (he : e ≤ 968) (s : UnpackedFloat.Sign) (accuracy : Accuracy) :
    Within 971 (UnpackedFloat.roundWithAccuracy .binary64 s m e accuracy) := by
  rcases roundWithAccuracy_cases .binary64 s m e accuracy with ⟨_, h⟩ | ⟨_, h⟩
  · rw [h]
    trivial
  · rw [h]
    change (rounded .binary64 m e accuracy).2 ≤ 971
    have hexponent := shiftToTargetExponent_exponent m e accuracy
    have hrounded := log2_rounded_le m _ _ (shiftToTargetExponent_mantissa m e accuracy)
    rw [rounded, shiftToTargetExponent_exponent]
    unfold totalExponent at *
    omega

/-! ## Finite numbers -/

theorem totalExponent_le {m k : Nat} (hm : m < 2 ^ k) (hk : 0 < k) (e : Int) :
    totalExponent m e ≤ k + e := by
  have hlog : m.log2 < k := by
    by_cases hzero : m = 0
    · rw [hzero]
      exact hk
    · exact (Nat.log2_lt hzero).mpr hm
  unfold totalExponent
  omega

/-- The exponent and the magnitude of a word fit. -/
theorem unpack_fits {bits : BitVec Format.binary64.numBits} {s : UnpackedFloat.Sign} {m : Nat}
    {e : Int} {hm : 0 < m} (h : UnpackedFloat.unpack .binary64 bits = .finite s m e hm) :
    e ≤ 971 ∧ totalExponent m e ≤ 1024 := by
  have hbias : (Format.binary64.exponentBias : Int) = 1023 := rfl
  have hbits : Format.binary64.mantissaBitsWithoutImplicit = 52 := rfl
  have hlt : (UnpackedFloat.unpackExponent bits).toNat < 2048 :=
    (UnpackedFloat.unpackExponent bits).isLt
  have hunpacks := unpacks_unpack bits
  rw [h] at hunpacks
  cases hunpacks with
  | subnormal _ hzero =>
      have hexponent : (UnpackedFloat.unpackExponent bits).toNat = 0 := by rw [hzero]; rfl
      refine ⟨by omega, Int.le_trans (totalExponent_le (k := 52) ?_ (by decide) _) (by omega)⟩
      exact (UnpackedFloat.unpackMantissa bits).isLt
  | normal _ hones _ =>
      have hbelow : (UnpackedFloat.unpackExponent bits).toNat ≠ 2047 :=
        fun hvalue => hones (BitVec.eq_of_toNat_eq hvalue)
      refine ⟨by omega, Int.le_trans (totalExponent_le (k := 53) ?_ (by decide) _) (by omega)⟩
      exact (1#1 ++ UnpackedFloat.unpackMantissa bits).isLt

/-- A finite number is a zero, or has an exponent and a magnitude that fit. -/
theorem exists_unpack {x : Float} (hx : x.isFinite = true) :
    (∃ s, x.toModel.unpack = .zero s) ∨ ∃ s m e hm, x.toModel.unpack = .finite s m e hm ∧
      e ≤ 971 ∧ totalExponent m e ≤ 1024 := by
  have hfinite : x.toModel.unpack.isFinite = true := hx
  cases h : x.toModel.unpack with
  | notANumber =>
      rw [h] at hfinite
      cases hfinite
  | infinity s =>
      rw [h] at hfinite
      cases hfinite
  | zero s => exact .inl ⟨s, rfl⟩
  | finite s m e hm => exact .inr ⟨s, m, e, hm, rfl, unpack_fits h⟩

theorem isFinite_pack {u : UnpackedFloat} (hu : Within 971 u) :
    (Float.ofModel (.pack u)).isFinite = true := by
  have hbound : (971 : Int) + Format.binary64.exponentBias +
      Format.binary64.mantissaBitsWithoutImplicit + 1 < 2 ^ Format.binary64.exponentBits := by decide
  exact isFinite_unpack_pack hu hbound

theorem isFinite_neg {x : Float} (hx : x.isFinite = true) : (-x).isFinite = true := by
  change (Float.ofModel (.pack x.toModel.unpack.neg)).isFinite = true
  rcases exists_unpack hx with ⟨s, h⟩ | ⟨s, m, e, hm, h, he, _⟩
  · rw [h]
    exact isFinite_pack trivial
  · rw [h]
    exact isFinite_pack he

/-! ## Natural numbers, quotients and products -/

theorem shiftLeft_lt {m k : Nat} (hm : m < 2 ^ k) (shift : Nat) : m <<< shift < 2 ^ (k + shift) := by
  rw [Nat.shiftLeft_eq, Nat.pow_add]
  exact Nat.mul_lt_mul_of_pos_right hm (Nat.two_pow_pos shift)

theorem isFinite_toFloat (n : UInt64) : n.toFloat.isFinite = true := by
  have hn : n.toNat < 2 ^ 64 := n.toNat_lt
  refine isFinite_pack (u := UnpackedFloat.normalize .binary64 n.toNat 0 .positive) ?_
  simp only [UnpackedFloat.normalize]
  split
  · rename_i hlt
    rw [Int.compare_eq_lt] at hlt
    omega
  · trivial
  · have htotal := totalExponent_le hn (by decide) 0
    rw [Int.toNat_natCast]
    generalize n.toNat = m at *
    simp only [UnpackedFloat.round, UnpackedFloat.decreaseExponent, targetExponent_eq]
    refine roundWithAccuracy_within ?_ (by omega) _ _
    refine Int.le_trans (totalExponent_le (shiftLeft_lt hn _) (by omega) _) (by omega)

/-- A finite number that is divided by eight or more stays finite. -/
theorem isFinite_div {x y : Float} (hx : x.isFinite = true) {s : UnpackedFloat.Sign} {m : Nat}
    {e : Int} {hm : 0 < m} (hy : y.toModel.unpack = .finite s m e hm)
    (hlarge : 4 ≤ totalExponent m e) : (x / y).isFinite = true := by
  refine isFinite_pack (u := UnpackedFloat.div .binary64 x.toModel.unpack y.toModel.unpack) ?_
  rw [hy]
  rcases exists_unpack hx with ⟨s, h⟩ | ⟨sx, n, d, hn, h, hd, htotal⟩
  · rw [h]
    trivial
  · rw [h]
    change Within 971 (UnpackedFloat.roundWithAccuracy .binary64 _ (_ / _) _ _)
    rw [targetExponent_eq]
    generalize htarget : min (d - e) (max (totalExponent n d - totalExponent m e - 53) (-1074)) =
      target
    refine roundWithAccuracy_within ?_ (by omega) _ _
    have hquotient : n <<< (d - e - target).toNat / m <
        2 ^ (max 1 (n.log2 + 1 + (d - e - target).toNat - m.log2)) := by
      rw [Nat.div_lt_iff_lt_mul hm]
      calc
        n <<< (d - e - target).toNat < 2 ^ (n.log2 + 1 + (d - e - target).toNat) :=
          shiftLeft_lt Nat.lt_log2_self _
        _ ≤ 2 ^ (max 1 (n.log2 + 1 + (d - e - target).toNat - m.log2)) * 2 ^ m.log2 := by
          rw [← Nat.pow_add]
          exact Nat.pow_le_pow_right (by decide) (by omega)
        _ ≤ _ := Nat.mul_le_mul_left _ (Nat.log2_self_le (by omega))
    refine Int.le_trans (totalExponent_le hquotient (by omega) target) ?_
    unfold totalExponent at *
    omega

/-- A product of finite numbers is finite or infinite. -/
theorem isFinite_mul {x y : Float} (hx : x.isFinite = true) (hy : y.isFinite = true)
    (hinf : (x * y).isInf = false) : (x * y).isFinite = true := by
  have hsign : sign? (x * y).toModel.unpack ≠ none := by
    have hpack : sign? (x * y).toModel.unpack =
        sign? (UnpackedFloat.mul .binary64 x.toModel.unpack y.toModel.unpack) :=
      sign?_unpack_pack _ _
    rw [hpack]
    rcases exists_unpack hx with ⟨s, h⟩ | ⟨s, m, d, hm, h, _⟩ <;>
      rcases exists_unpack hy with ⟨t, h'⟩ | ⟨t, n, e, hn, h', _⟩ <;> rw [h, h']
    case inr.inr =>
      change sign? (UnpackedFloat.roundWithAccuracy .binary64 (s * t) _ _ .exact) ≠ none
      rw [sign?_roundWithAccuracy]
      exact nofun
    all_goals exact nofun
  change (x * y).toModel.unpack.isInf = false at hinf
  change (x * y).toModel.unpack.isFinite = true
  cases h : (x * y).toModel.unpack with
  | notANumber =>
      rw [h] at hsign
      exact absurd rfl hsign
  | infinity s =>
      rw [h] at hinf
      cases hinf
  | zero s => rfl
  | finite s m e hm => rfl

end Catalogue
