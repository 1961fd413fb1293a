import Catalogue.Json.Scan
import Catalogue.Proofs.Float.Finite

/-! # Powers of ten

A number with at least 53 bits is rounded to one with 53 bits, which keeps its exponent when it is
packed. So a power of ten is as large as it should be, and dividing by it never leaves the range. -/

namespace Catalogue

open Float.Model
open Float.Model.UnpackedFloat (Accuracy ExtendedMantissa Sign packComponents)

/-! ## Numbers of 53 bits -/

/-- A number of 53 bits whose exponent fits keeps it when it is packed. -/
theorem unpack_pack_normal {s : Sign} {m : Nat} {e : Int} (hm : 0 < m) (hbits : m.log2 = 52)
    (hlow : -1074 ≤ e) (hhigh : e ≤ 971) : ∃ m' hm',
      UnpackedFloat.unpack .binary64 (UnpackedFloat.pack .binary64 (.finite s m e hm)) =
        .finite s m' e hm' ∧ m'.log2 = 52 := by
  obtain ⟨biased, hbiased⟩ : ∃ n : Nat, e + 1023 + 52 = n := ⟨(e + 1023 + 52).toNat, by omega⟩
  have hpack : UnpackedFloat.pack .binary64 (.finite s m e hm) =
      packComponents .binary64 s (BitVec.ofNat 11 biased) (BitVec.ofNat 52 m) := by
    have hexponent : (e + (Format.binary64.exponentBias : Int) +
        Format.binary64.mantissaBitsWithoutImplicit).toNat = biased := by
      change (e + 1023 + 52).toNat = biased
      omega
    rw [pack_finite, hexponent, hbits, if_neg (show ¬2 ^ 11 ≤ biased + 1 by omega),
      if_pos (show 52 + 1 = Format.binary64.mantissaBits from rfl)]
  have hones : BitVec.ofNat 11 biased ≠ -1#11 := ofNat_ne_ones (by omega)
  have hzero : BitVec.ofNat 11 biased ≠ 0#11 := by
    intro h
    have hvalue := congrArg BitVec.toNat h
    rw [BitVec.toNat_ofNat, Nat.mod_eq_of_lt (by omega)] at hvalue
    simp at hvalue
    omega
  rw [hpack]
  have hexponent : UnpackedFloat.unpackExponent (packComponents .binary64 s
      (BitVec.ofNat 11 biased) (BitVec.ofNat 52 m)) = BitVec.ofNat 11 biased :=
    UnpackedFloat.unpackExponent_packComponents
  have hsign : Sign.ofBitVec (UnpackedFloat.unpackSign (packComponents .binary64 s
      (BitVec.ofNat 11 biased) (BitVec.ofNat 52 m))) = s :=
    ofBitVec_unpackSign_packComponents ..
  have hunpacks := unpacks_unpack (packComponents .binary64 s (BitVec.ofNat 11 biased)
    (BitVec.ofNat 52 m))
  generalize packComponents .binary64 s (BitVec.ofNat 11 biased) (BitVec.ofNat 52 m) = bits at *
  generalize UnpackedFloat.unpack .binary64 bits = u at *
  cases hunpacks with
  | infinity h _ | notANumber h _ => exact absurd (hexponent.symm.trans h) hones
  | zero h _ | subnormal _ h => exact absurd (hexponent.symm.trans h) hzero
  | normal hm' _ _ =>
      have hvalue : ((UnpackedFloat.unpackExponent bits).toNat : Int) -
          (Format.binary64.exponentBias + Format.binary64.mantissaBitsWithoutImplicit) = e := by
        rw [hexponent, BitVec.toNat_ofNat, Nat.mod_eq_of_lt (show biased < 2 ^ 11 by omega)]
        change (biased : Int) - (1023 + 52) = e
        omega
      refine ⟨_, hm', ?_, log2_implicit _⟩
      rw [UnpackedFloat.finite.injEq]
      exact ⟨hsign, rfl, hvalue⟩

/-! ## Rounding to 53 bits -/

theorem le_roundedMantissa (em : ExtendedMantissa) : em.mantissa ≤ em.roundedMantissa := by
  obtain ⟨m, round, sticky⟩ := em
  cases round <;> cases sticky <;>
    simp [ExtendedMantissa.roundedMantissa, ExtendedMantissa.accuracy, Accuracy.roundToNearestEven]

theorem log2_div_pow {m k : Nat} (hm : k ≤ m.log2) : (m / 2 ^ k).log2 = m.log2 - k := by
  by_cases hpos : m = 0
  · subst hpos
    obtain rfl : k = 0 := Nat.le_zero.mp hm
    rfl
  have hsplit (n : Nat) : 2 ^ (n + k) = 2 ^ n * 2 ^ k := Nat.pow_add 2 n k
  apply log2_eq_of_bounds
  · rw [Nat.le_div_iff_mul_le (Nat.two_pow_pos k), ← hsplit]
    exact (Nat.le_log2 hpos).mp (by omega)
  · rw [Nat.div_lt_iff_lt_mul (Nat.two_pow_pos k), ← hsplit]
    exact (Nat.log2_lt hpos).mp (by omega)

/-- A number of at least 53 bits is rounded to one of 53 bits, of the same magnitude or just above. -/
theorem rounded_normal {m : Nat} {e : Int} (hbits : 52 ≤ m.log2)
    (hlow : -1021 ≤ totalExponent m e) (accuracy : Accuracy) :
    (rounded .binary64 m e accuracy).1.mantissa.log2 = 52 ∧
      totalExponent m e - 53 ≤ (rounded .binary64 m e accuracy).2 ∧
      (rounded .binary64 m e accuracy).2 ≤ totalExponent m e - 52 := by
  have hexponent := shiftToTargetExponent_exponent m e accuracy
  have hmantissa := shiftToTargetExponent_mantissa m e accuracy
  have htotal : totalExponent m e = m.log2 + 1 + e := rfl
  unfold rounded
  dsimp only
  generalize UnpackedFloat.shiftToTargetExponent .binary64 m e accuracy = first at *
  obtain ⟨em, e₁⟩ := first
  dsimp only at hexponent hmantissa ⊢
  have he₁ : e₁ = totalExponent m e - 53 := by omega
  have hem : em.mantissa.log2 = 52 := by
    rw [hmantissa, log2_div_pow (by omega)]
    omega
  have hne : em.mantissa ≠ 0 := by
    intro hnone
    rw [hnone] at hem
    cases hem
  have hrounded : 52 ≤ em.roundedMantissa.log2 ∧ em.roundedMantissa.log2 ≤ 53 := by
    have hle := le_roundedMantissa em
    have hlow := (Nat.le_log2 hne).mp (Nat.le_of_eq hem.symm)
    refine ⟨(Nat.le_log2 (by omega)).mpr (Nat.le_trans hlow hle), ?_⟩
    have hhigh := log2_rounded_le em.mantissa 0 em (by simp)
    omega
  have hexponent₂ := shiftToTargetExponent_exponent em.roundedMantissa e₁ .exact
  have hmantissa₂ := shiftToTargetExponent_mantissa em.roundedMantissa e₁ .exact
  have htotal₂ : totalExponent em.roundedMantissa e₁ = em.roundedMantissa.log2 + 1 + e₁ := rfl
  generalize UnpackedFloat.shiftToTargetExponent .binary64 em.roundedMantissa e₁ .exact = second at *
  obtain ⟨em₂, e₂⟩ := second
  dsimp only at hexponent₂ hmantissa₂ ⊢
  have hem₂ : em₂.mantissa.log2 = 52 := by
    rw [hmantissa₂, log2_div_pow (by omega)]
    omega
  exact ⟨hem₂, by omega, by omega⟩

theorem roundWithAccuracy_normal {m : Nat} {e : Int} (hbits : 52 ≤ m.log2)
    (hlow : -1021 ≤ totalExponent m e) (s : Sign) (accuracy : Accuracy) : ∃ m' e' hm',
      UnpackedFloat.roundWithAccuracy .binary64 s m e accuracy = .finite s m' e' hm' ∧
        m'.log2 = 52 ∧ totalExponent m e - 53 ≤ e' ∧ e' ≤ totalExponent m e - 52 := by
  obtain ⟨hlog, hle, hge⟩ := rounded_normal hbits hlow accuracy
  rcases roundWithAccuracy_cases .binary64 s m e accuracy with ⟨hzero, _⟩ | ⟨hm', hround⟩
  · rw [hzero] at hlog
    cases hlog
  · exact ⟨_, _, hm', hround, hlog, hle, hge⟩

/-! ## Powers of ten -/

def isLarge (y : Float) : Bool :=
  match y.toModel.unpack with
  | .finite _ m e _ => decide (4 ≤ totalExponent m e)
  | _ => false

theorem isFinite_of_isLarge {y : Float} (hy : isLarge y = true) : y.isFinite = true := by
  change y.toModel.unpack.isFinite = true
  unfold isLarge at hy
  split at hy
  · next h =>
      rw [h]
      rfl
  · cases hy

theorem isFinite_div_large {x y : Float} (hx : x.isFinite = true) (hy : isLarge y = true) :
    (x / y).isFinite = true := by
  unfold isLarge at hy
  split at hy
  · next h => exact isFinite_div hx h (of_decide_eq_true hy)
  · cases hy

theorem log2_shiftLeft_mul {m : Nat} (hm : m ≠ 0) (k : Nat) :
    ((1 <<< k) * m).log2 = m.log2 + k := by
  rw [Nat.one_shiftLeft, Nat.mul_comm]
  apply log2_eq_of_bounds
  · rw [Nat.pow_add]
    exact Nat.mul_le_mul_right _ ((Nat.le_log2 hm).mp (Nat.le_refl _))
  · rw [show m.log2 + k + 1 = m.log2 + 1 + k by omega, Nat.pow_add]
    exact Nat.mul_lt_mul_of_pos_right Nat.lt_log2_self (Nat.two_pow_pos k)

/-- Ten to a power is packed as it is rounded: to 53 bits, and no smaller than it is. -/
theorem isLarge_ofScientific {k : Nat} (hlow : 23 ≤ k) (hhigh : k ≤ 307) :
    isLarge (Float.ofScientific 1 false k) = true := by
  have hpos : 10 ^ k ≠ 0 := Nat.pos_iff_ne_zero.mp (Nat.pow_pos (by decide))
  have hlarge : 3 ≤ (10 ^ k).log2 := (Nat.le_log2 hpos).mpr
    (Nat.le_trans (by decide : 2 ^ 3 ≤ 10 ^ 1) (Nat.pow_le_pow_right (by decide) (by omega)))
  have hsmall : (10 ^ k).log2 ≤ 1020 := log2_le_of_le
    (Nat.le_trans (Nat.pow_le_pow_right (by decide) hhigh) (by decide +kernel))
  have hrounded : UnpackedFloat.ofScientific .binary64 1 (k : Int) =
      UnpackedFloat.roundWithAccuracy .binary64 .positive ((1 <<< 53) * 10 ^ k) (-53) .exact := by
    have hrange : ¬(k : Int) > 2 ^ Format.binary64.exponentBits := by
      change ¬(k : Int) > 2 ^ 11
      omega
    have hsign : ¬(k : Int) < -(2 ^ Format.binary64.exponentBits + (Nat.log2 1 : Int)) := by
      change ¬(k : Int) < -(2 ^ 11 + (0 : Int))
      omega
    unfold UnpackedFloat.ofScientific
    rw [dif_neg (by decide), if_neg hrange, if_neg hsign, if_pos (by omega)]
    rfl
  have hbits := log2_shiftLeft_mul hpos 53
  have htotal : totalExponent ((1 <<< 53) * 10 ^ k) (-53) =
      ((1 <<< 53) * 10 ^ k).log2 + 1 + (-53) := rfl
  obtain ⟨m, e, hm, hround, hlog, hle, hge⟩ := roundWithAccuracy_normal
    (show 52 ≤ ((1 <<< 53) * 10 ^ k).log2 by omega) (e := -53) (by omega) .positive .exact
  obtain ⟨m', hm', hunpack, hlog'⟩ := unpack_pack_normal (s := .positive) hm hlog
    (show -1074 ≤ e by omega) (by omega)
  have hmodel : (Float.ofScientific 1 false k).toModel.unpack = .finite .positive m' e hm' := by
    rw [Float.ofScientific, dif_neg (by omega)]
    change UnpackedFloat.unpack .binary64 (UnpackedFloat.pack .binary64
      (UnpackedFloat.ofScientific .binary64 1 (k : Int))) = _
    rw [hrounded, hround, hunpack]
  unfold isLarge
  rw [hmodel]
  have htotal' : totalExponent m' e = m'.log2 + 1 + e := rfl
  exact decide_eq_true (by omega)

theorem powerOfTen_isLarge {k : Nat} (hk : k < 309) (hne : k ≠ 0) :
    isLarge (Json.Scan.powerOfTen k) = true := by
  by_cases hsmall : k < 23
  · have htable : ∀ k < 23, k ≠ 0 → isLarge (Json.Scan.powerOfTen k) = true := by decide +kernel
    exact htable k hsmall hne
  · by_cases hlast : k = 308
    · subst hlast
      decide +kernel
    · exact isLarge_ofScientific (by omega) (by omega)

end Catalogue
