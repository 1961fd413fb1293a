import Mathlib.Algebra.Order.Ring.Nat

/-! # Packed numbers

What is packed into a word and unpacked again keeps its sign, and is finite again if its exponent
fits. Rounding leaves a zero or a finite number, with the sign it is told. -/

namespace Catalogue

open Float.Model
open Float.Model.UnpackedFloat (Accuracy ExtendedMantissa Sign packComponents unpackSign
  unpackExponent unpackMantissa)

def sign? : UnpackedFloat → Option Sign
  | .notANumber => none
  | .infinity s | .zero s | .finite s _ _ _ => some s

variable {S : Format}

theorem unpackSign_packComponents (s : Sign) (e : BitVec S.exponentBits)
    (m : BitVec S.mantissaBitsWithoutImplicit) :
    unpackSign (packComponents S s e m) = s.toBitVec := by
  ext i hi
  have hzero : i = 0 := by omega
  subst hzero
  change (BitVec.cast _ (BitVec.extractLsb _ _ (s.toBitVec ++ e ++ m)))[0] = _
  simp [BitVec.getLsbD_append, BitVec.getElem_append]

theorem ofBitVec_unpackSign_packComponents (s : Sign) (e : BitVec S.exponentBits)
    (m : BitVec S.mantissaBitsWithoutImplicit) :
    Sign.ofBitVec (unpackSign (packComponents S s e m)) = s := by
  rw [unpackSign_packComponents]
  cases s <;> rfl

/-- What a word stands for, by its exponent and its mantissa. -/
inductive Unpacks (bits : BitVec S.numBits) : UnpackedFloat → Prop
  | infinity : unpackExponent bits = -1#_ → unpackMantissa bits = 0#_ →
      Unpacks bits (.infinity (.ofBitVec (unpackSign bits)))
  | notANumber : unpackExponent bits = -1#_ → unpackMantissa bits ≠ 0#_ →
      Unpacks bits .notANumber
  | zero : unpackExponent bits = 0#_ → unpackMantissa bits = 0#_ →
      Unpacks bits (.zero (.ofBitVec (unpackSign bits)))
  | subnormal (hm : 0 < (unpackMantissa bits).toNat) : unpackExponent bits = 0#_ →
      Unpacks bits (.finite (.ofBitVec (unpackSign bits)) (unpackMantissa bits).toNat
        ((unpackExponent bits).toNat - (S.exponentBias + S.mantissaBitsWithoutImplicit) + 1) hm)
  | normal (hm : 0 < (1#1 ++ unpackMantissa bits).toNat) : unpackExponent bits ≠ -1#_ →
      unpackExponent bits ≠ 0#_ →
      Unpacks bits (.finite (.ofBitVec (unpackSign bits)) (1#1 ++ unpackMantissa bits).toNat
        ((unpackExponent bits).toNat - (S.exponentBias + S.mantissaBitsWithoutImplicit)) hm)

theorem unpacks_unpack (bits : BitVec S.numBits) : Unpacks bits (UnpackedFloat.unpack S bits) := by
  unfold UnpackedFloat.unpack
  dsimp only
  by_cases hones : unpackExponent bits = -1#_
  · rw [if_pos hones]
    by_cases hnone : unpackMantissa bits = 0#_
    · rw [if_pos hnone]
      exact .infinity hones hnone
    · rw [if_neg hnone]
      exact .notANumber hones hnone
  · rw [if_neg hones]
    by_cases hzero : unpackExponent bits = 0#_
    · rw [if_pos hzero]
      by_cases hnone : unpackMantissa bits = 0#_
      · rw [dif_pos hnone]
        exact .zero hzero hnone
      · rw [dif_neg hnone]
        exact .subnormal _ hzero
    · rw [if_neg hzero]
      exact .normal _ hones hzero

theorem ofNat_ne_ones {n b : Nat} (h : b + 1 < 2 ^ n) : BitVec.ofNat n b ≠ -1#n := by
  intro hones
  have hvalue := congrArg BitVec.toNat hones
  rw [BitVec.toNat_ofNat, Nat.mod_eq_of_lt (by omega), BitVec.neg_one_eq_allOnes,
    BitVec.toNat_allOnes] at hvalue
  omega

theorem zero_ne_ones (S : Format) : 0#S.exponentBits ≠ -1#_ := by
  have hbits : 2 ^ 1 ≤ 2 ^ S.exponentBits := Nat.pow_le_pow_right (by decide) S.he
  exact ofNat_ne_ones (by omega)

theorem unpack_packComponents (s : Sign) (e : BitVec S.exponentBits)
    (m : BitVec S.mantissaBitsWithoutImplicit) :
    sign? (UnpackedFloat.unpack S (packComponents S s e m)) =
        (if e = -1#_ ∧ m ≠ 0#_ then none else some s) ∧
      (UnpackedFloat.unpack S (packComponents S s e m)).isFinite = decide (e ≠ -1#_) := by
  have hexponent : unpackExponent (packComponents S s e m) = e :=
    UnpackedFloat.unpackExponent_packComponents
  have hmantissa : unpackMantissa (packComponents S s e m) = m :=
    UnpackedFloat.unpackMantissa_packComponents
  have hsign := ofBitVec_unpackSign_packComponents s e m
  have hunpacks := unpacks_unpack (packComponents S s e m)
  generalize UnpackedFloat.unpack S (packComponents S s e m) = u at *
  cases hunpacks with
  | infinity hones hnone =>
      rw [hexponent] at hones
      rw [hmantissa] at hnone
      rw [if_neg fun h => h.2 hnone, decide_eq_false (not_not_intro hones)]
      exact ⟨congrArg some hsign, rfl⟩
  | notANumber hones hsome =>
      rw [hexponent] at hones
      rw [hmantissa] at hsome
      rw [if_pos ⟨hones, hsome⟩, decide_eq_false (not_not_intro hones)]
      exact ⟨rfl, rfl⟩
  | zero hzero _ | subnormal _ hzero =>
      have hne : e ≠ -1#_ := by
        rw [← hexponent, hzero]
        exact zero_ne_ones S
      rw [if_neg fun h => hne h.1, decide_eq_true hne]
      exact ⟨congrArg some hsign, rfl⟩
  | normal _ hne _ =>
      rw [hexponent] at hne
      rw [if_neg fun h => hne h.1, decide_eq_true hne]
      exact ⟨congrArg some hsign, rfl⟩

theorem pack_finite (S : Format) (s : Sign) (m : Nat) (e : Int) (hm : 0 < m) :
    UnpackedFloat.pack S (.finite s m e hm) =
      if 2 ^ S.exponentBits ≤ (e + S.exponentBias + S.mantissaBitsWithoutImplicit).toNat + 1 then
        UnpackedFloat.packedInfinity S s
      else if m.log2 + 1 = S.mantissaBits then
        packComponents S s
          (.ofNat _ (e + S.exponentBias + S.mantissaBitsWithoutImplicit).toNat) (.ofNat _ m)
      else packComponents S s 0#_ (.ofNat _ m) :=
  rfl

theorem log2_eq_of_bounds {m k : Nat} (hlow : 2 ^ k ≤ m) (hhigh : m < 2 ^ (k + 1)) : m.log2 = k := by
  have hpos : m ≠ 0 := by
    have := Nat.two_pow_pos k
    omega
  have hle : k ≤ m.log2 := (Nat.le_log2 hpos).mpr hlow
  have hlt : m.log2 < k + 1 := (Nat.log2_lt hpos).mpr hhigh
  omega

/-- The implicit bit stands above the bits of the mantissa. -/
theorem toNat_implicit {k : Nat} (x : BitVec k) : (1#1 ++ x).toNat = 2 ^ k + x.toNat := by
  have hor := Nat.two_pow_add_eq_or_of_lt x.isLt 1
  rw [Nat.mul_one] at hor
  rw [BitVec.toNat_append, hor, BitVec.toNat_ofNat, Nat.shiftLeft_eq, Nat.mod_eq_of_lt Nat.one_lt_two,
    Nat.one_mul]

theorem log2_implicit {k : Nat} (x : BitVec k) : (1#1 ++ x).toNat.log2 = k := by
  refine log2_eq_of_bounds ?_ ?_
  · rw [toNat_implicit]
    exact Nat.le_add_right _ _
  · rw [Nat.add_comm k 1]
    exact (1#1 ++ x).isLt

theorem mantissa_ne_zero (S : Format) :
    1#S.mantissaBitsWithoutImplicit <<< (S.mantissaBitsWithoutImplicit - 1) ≠ 0#_ := by
  intro hzero
  have hvalue := congrArg BitVec.toNat hzero
  have hbits := S.hm
  have hlt : 2 ^ (S.mantissaBitsWithoutImplicit - 1) < 2 ^ S.mantissaBitsWithoutImplicit :=
    Nat.pow_lt_pow_right (by decide) (by omega)
  have hone : 1 < 2 ^ S.mantissaBitsWithoutImplicit := Nat.one_lt_two_pow (by omega)
  rw [BitVec.toNat_shiftLeft, BitVec.toNat_ofNat, Nat.mod_eq_of_lt hone, Nat.one_shiftLeft,
    Nat.mod_eq_of_lt hlt] at hvalue
  simp at hvalue

/-- What is packed keeps its sign. -/
theorem sign?_unpack_pack (S : Format) (u : UnpackedFloat) :
    sign? (UnpackedFloat.unpack S (UnpackedFloat.pack S u)) = sign? u := by
  cases u with
  | notANumber =>
      change sign? (UnpackedFloat.unpack S (packComponents S _ _ _)) = none
      rw [(unpack_packComponents _ _ _).1, if_pos ⟨rfl, mantissa_ne_zero S⟩]
  | infinity s =>
      change sign? (UnpackedFloat.unpack S (packComponents S s _ _)) = some s
      rw [(unpack_packComponents _ _ _).1, if_neg fun h => h.2 rfl]
  | zero s =>
      change sign? (UnpackedFloat.unpack S (packComponents S s _ _)) = some s
      rw [(unpack_packComponents _ _ _).1, if_neg fun h => h.2 rfl]
  | finite s m e hm =>
      change _ = some s
      rw [pack_finite]
      split
      · rw [UnpackedFloat.packedInfinity, (unpack_packComponents _ _ _).1, if_neg fun h => h.2 rfl]
      · rename_i hfits
        split
        · rw [(unpack_packComponents _ _ _).1, if_neg fun h => ofNat_ne_ones (by omega) h.1]
        · rw [(unpack_packComponents _ _ _).1, if_neg fun h => zero_ne_ones S h.1]

/-- A zero, or a finite number whose exponent is not above a bound. -/
def Within (bound : Int) : UnpackedFloat → Prop
  | .zero _ => True
  | .finite _ _ e _ => e ≤ bound
  | _ => False

/-- What is packed with an exponent that fits stays finite. -/
theorem isFinite_unpack_pack {S : Format} {bound : Int} {u : UnpackedFloat} (hu : Within bound u)
    (hbound : bound + S.exponentBias + S.mantissaBitsWithoutImplicit + 1 < 2 ^ S.exponentBits) :
    (UnpackedFloat.unpack S (UnpackedFloat.pack S u)).isFinite = true := by
  cases u with
  | notANumber => exact hu.elim
  | infinity s => exact hu.elim
  | zero s =>
      change (UnpackedFloat.unpack S (packComponents S s _ _)).isFinite = true
      rw [(unpack_packComponents _ _ _).2]
      exact decide_eq_true (zero_ne_ones S)
  | finite s m e hm =>
      have he : e ≤ bound := hu
      have hbits : 2 ^ 1 ≤ 2 ^ S.exponentBits := Nat.pow_le_pow_right (by decide) S.he
      have hfits : ¬2 ^ S.exponentBits ≤
          (e + S.exponentBias + S.mantissaBitsWithoutImplicit).toNat + 1 := by
        have hcast : ((2 ^ S.exponentBits : Nat) : Int) = 2 ^ S.exponentBits := by push_cast; rfl
        omega
      rw [pack_finite, if_neg hfits]
      split
      · rw [(unpack_packComponents _ _ _).2]
        exact decide_eq_true (ofNat_ne_ones (by omega))
      · rw [(unpack_packComponents _ _ _).2]
        exact decide_eq_true (zero_ne_ones S)

/-! ## Rounding -/

/-- The mantissa and the exponent that rounding leaves: those of a second shift, after the first has
been rounded. -/
def rounded (S : Format) (m : Nat) (e : Int) (accuracy : Accuracy) : ExtendedMantissa × Int :=
  let first := UnpackedFloat.shiftToTargetExponent S m e accuracy
  UnpackedFloat.shiftToTargetExponent S first.1.roundedMantissa first.2 .exact

theorem roundWithAccuracy_cases (S : Format) (s : Sign) (m : Nat) (e : Int) (accuracy : Accuracy) :
    ((rounded S m e accuracy).1.mantissa = 0 ∧
        UnpackedFloat.roundWithAccuracy S s m e accuracy = .zero s) ∨
      ∃ hm, UnpackedFloat.roundWithAccuracy S s m e accuracy =
        .finite s (rounded S m e accuracy).1.mantissa (rounded S m e accuracy).2 hm := by
  by_cases hzero : (rounded S m e accuracy).1.mantissa = 0
  · exact .inl ⟨hzero, dif_pos hzero⟩
  · exact .inr ⟨Nat.pos_of_ne_zero hzero, dif_neg hzero⟩

theorem sign?_roundWithAccuracy (S : Format) (s : Sign) (m : Nat) (e : Int) (accuracy : Accuracy) :
    sign? (UnpackedFloat.roundWithAccuracy S s m e accuracy) = some s := by
  rcases roundWithAccuracy_cases S s m e accuracy with ⟨_, h⟩ | ⟨_, h⟩
  · rw [h]
    rfl
  · rw [h]
    rfl

end Catalogue
