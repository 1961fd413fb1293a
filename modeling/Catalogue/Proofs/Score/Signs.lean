import Catalogue.Proofs.Float.Packing
import Catalogue.Proofs.Score.Order
import Catalogue.Score.Registry
import Catalogue.Search.Ranking

/-! # Signs of scores

A score is a number exactly if it has a sign, and rounding keeps signs. Sums and products of what
has no minus sign have none either. A sum of such numbers is a number, and a product of numbers is
one unless it is of infinity and zero. -/

namespace Catalogue

open Float.Model
open Float.Model.UnpackedFloat (Sign)

/-! ## Rounding -/

theorem sign?_normalize (S : Format) {m : Int} (hm : 0 ≤ m) (e : Int) :
    sign? (UnpackedFloat.normalize S m e .positive) = some .positive := by
  simp only [UnpackedFloat.normalize]
  split
  · rename_i hlt
    rw [Int.compare_eq_lt] at hlt
    omega
  · rfl
  · exact sign?_roundWithAccuracy S .positive _ _ _

def isZero : UnpackedFloat → Bool
  | .zero _ => true
  | _ => false

section

variable {S : Format} {u v : UnpackedFloat}

theorem sign?_add (hu : sign? u ≠ some .negative) (hv : sign? v ≠ some .negative) :
    sign? (UnpackedFloat.add S u v) = (sign? u).bind fun _ => sign? v := by
  rcases u with (_ | _) | _ | (_ | _) | ⟨_ | _, m, d, _⟩ <;>
    rcases v with (_ | _) | _ | (_ | _) | ⟨_ | _, n, e, _⟩
  all_goals first | rfl | exact absurd rfl hu | exact absurd rfl hv | skip
  case finite.positive.finite.positive =>
    exact sign?_normalize S (Int.add_nonneg (Int.natCast_nonneg _) (Int.natCast_nonneg _)) _

/-- A product without minus signs is a number if its factors are, unless they are infinity and
zero. -/
theorem sign?_mul (hu : sign? u ≠ some .negative) (hv : sign? v ≠ some .negative) :
    sign? (UnpackedFloat.mul S u v) =
      if u.isInf && isZero v || isZero u && v.isInf then none
      else (sign? u).bind fun _ => sign? v := by
  rcases u with (_ | _) | _ | (_ | _) | ⟨_ | _, m, d, _⟩ <;>
    rcases v with (_ | _) | _ | (_ | _) | ⟨_ | _, n, e, _⟩
  all_goals first | rfl | exact absurd rfl hu | exact absurd rfl hv | skip
  case finite.positive.finite.positive => exact sign?_roundWithAccuracy S .positive _ _ _

end

/-! ## Scores -/

def scoreSign? (x : Float32) : Option Sign := sign? x.toModel.unpack

def Unsigned (x : Float32) : Prop := scoreSign? x ≠ some .negative

theorem orderKey_isSome (u : UnpackedFloat) : (orderKey u).isSome = (sign? u).isSome := by
  rcases u with (_ | _) | _ | _ | ⟨_ | _, _, _, _⟩ <;> rfl

theorem isNumber_iff_sign {x : Float32} : IsNumber x ↔ scoreSign? x ≠ none := by
  have hkey : IsNumber x ↔ (scoreKey x).isSome = true := by
    rw [IsNumber, score_le_iff]
    cases scoreKey x with
    | none => simp
    | some k => simpa using (KeyLe.total k k).elim id id
  rw [hkey, scoreKey, orderKey_isSome, Option.isSome_iff_ne_none]
  rfl

instance : DecidablePred IsNumber := fun x => inferInstanceAs (Decidable (x ≤ x))

theorem Unsigned.isNumber_iff {x : Float32} (hx : Unsigned x) :
    IsNumber x ↔ scoreSign? x = some .positive := by
  rw [isNumber_iff_sign]
  unfold Unsigned at hx
  generalize scoreSign? x = sign at hx
  rcases sign with _ | _ | _
  · simp
  · exact absurd rfl hx
  · simp

theorem unsigned_of_sign {x : Float32} (h : scoreSign? x = some .positive) : Unsigned x := by
  rw [Unsigned, h]
  exact nofun

theorem isNumber_of_sign {x : Float32} (h : scoreSign? x = some .positive) : IsNumber x :=
  (unsigned_of_sign h).isNumber_iff.mpr h

theorem exists_orderKey {u : UnpackedFloat} (h : sign? u = some .positive) :
    ∃ k, orderKey u = some k ∧ 0 ≤ k.1 := by
  rcases u with (_ | _) | _ | _ | ⟨_ | _, m, e, _⟩
  case infinity.positive => exact ⟨(2, 0, 0), rfl, by decide⟩
  case zero => exact ⟨(0, 0, 0), rfl, by decide⟩
  case finite.positive => exact ⟨(1, e, m), rfl, Int.one_nonneg⟩
  all_goals cases h

/-- A score without a minus sign can be ranked exactly if it is a number. -/
theorem Unsigned.lowest_lt_iff {x : Float32} (hx : Unsigned x) :
    lowestScore < x ↔ IsNumber x := by
  refine ⟨isNumber_of_lt, fun hnumber => ?_⟩
  have hlowest : scoreKey lowestScore = some (-1, -104, -16777215) := rfl
  obtain ⟨k, hk, hpositive⟩ := exists_orderKey (hx.isNumber_iff.mp hnumber)
  refine score_lt_iff.mpr ⟨_, k, hlowest, hk, ?_⟩
  unfold KeyLe
  omega

theorem score_beq_zero (x : Float32) : (x == 0) = isZero x.toModel.unpack := by
  have hzero : (0 : Float32).toModel.unpack = .zero .positive := rfl
  have hbeq : (x == 0) = (x.toModel.unpack.compare (0 : Float32).toModel.unpack == some .eq) := rfl
  rw [hbeq, hzero]
  rcases x.toModel.unpack with (_ | _) | _ | _ | ⟨_ | _, _, _, _⟩ <;> rfl

def InfinityByZero (x y : Float32) : Prop := x.isInf ∧ y == 0 ∨ x == 0 ∧ y.isInf

theorem infinityByZero_iff {x y : Float32} : InfinityByZero x y ↔
    (x.toModel.unpack.isInf && isZero y.toModel.unpack ||
      isZero x.toModel.unpack && y.toModel.unpack.isInf) = true := by
  rw [InfinityByZero, score_beq_zero, score_beq_zero, Bool.or_eq_true, Bool.and_eq_true,
    Bool.and_eq_true]
  rfl

section

variable {x y : Float32}

theorem Unsigned.scoreSign?_add (hx : Unsigned x) (hy : Unsigned y) :
    scoreSign? (x + y) = (scoreSign? x).bind fun _ => scoreSign? y :=
  (sign?_unpack_pack _ _).trans (sign?_add hx hy)

/-- A product of numbers is a number, unless it is of infinity and zero. -/
theorem Unsigned.scoreSign?_mul (hx : Unsigned x) (hy : Unsigned y) :
    InfinityByZero x y ∧ scoreSign? (x * y) = none ∨
      ¬InfinityByZero x y ∧ scoreSign? (x * y) = (scoreSign? x).bind fun _ => scoreSign? y := by
  have hmul : scoreSign? (x * y) = _ := (sign?_unpack_pack _ _).trans (sign?_mul hx hy)
  rw [infinityByZero_iff]
  split at hmul
  · rename_i h
    exact .inl ⟨h, hmul⟩
  · rename_i h
    exact .inr ⟨h, hmul⟩

theorem Unsigned.bind (hy : Unsigned y) :
    ((scoreSign? x).bind fun _ => scoreSign? y) ≠ some .negative := by
  cases scoreSign? x with
  | none => exact nofun
  | some s => exact hy

theorem Unsigned.add (hx : Unsigned x) (hy : Unsigned y) : Unsigned (x + y) := by
  rw [Unsigned, hx.scoreSign?_add hy]
  exact hy.bind

theorem Unsigned.mul (hx : Unsigned x) (hy : Unsigned y) : Unsigned (x * y) := by
  rcases hx.scoreSign?_mul hy with ⟨_, h⟩ | ⟨_, h⟩
  · rw [Unsigned, h]
    exact nofun
  · rw [Unsigned, h]
    exact hy.bind

theorem scoreSign?_add (hx : scoreSign? x = some .positive) (hy : scoreSign? y = some .positive) :
    scoreSign? (x + y) = some .positive := by
  rw [(unsigned_of_sign hx).scoreSign?_add (unsigned_of_sign hy), hx, hy]
  rfl

theorem scoreSign?_mul (hx : scoreSign? x = some .positive) (hy : scoreSign? y = some .positive)
    (h : ¬InfinityByZero x y) : scoreSign? (x * y) = some .positive := by
  rcases (unsigned_of_sign hx).scoreSign?_mul (unsigned_of_sign hy) with ⟨hzero, _⟩ | ⟨_, hmul⟩
  · exact absurd hzero h
  · rw [hmul, hx, hy]
    rfl

/-- Multiplying by what is neither infinity nor zero keeps the sign. -/
theorem Unsigned.scoreSign?_mul_of_ne (hx : Unsigned x) (hy : scoreSign? y = some .positive)
    (hinf : y.isInf = false) (hzero : isZero y.toModel.unpack = false) :
    scoreSign? (x * y) = scoreSign? x := by
  rcases hx.scoreSign?_mul (unsigned_of_sign hy) with ⟨h, _⟩ | ⟨_, hmul⟩
  · simp [InfinityByZero, score_beq_zero, hinf, hzero] at h
  · rw [hmul, hy]
    cases hsign : scoreSign? x with
    | none => rfl
    | some s =>
        rw [Unsigned, hsign] at hx
        cases s with
        | negative => exact absurd rfl hx
        | positive => rfl

end

theorem sign?_ofScientific (S : Format) (m : Nat) (e : Int) :
    sign? (UnpackedFloat.ofScientific S m e) = some .positive := by
  unfold UnpackedFloat.ofScientific
  by_cases hzero : m = 0
  · rw [dif_pos hzero]
    rfl
  rw [dif_neg hzero]
  by_cases hlarge : e > 2 ^ S.exponentBits
  · rw [if_pos hlarge]
    rfl
  rw [if_neg hlarge]
  by_cases hsmall : e < -(2 ^ S.exponentBits + m.log2)
  · rw [if_pos hsmall]
    rfl
  rw [if_neg hsmall]
  -- A power of ten is a factor or a divisor, and rounding comes last.
  by_cases hwhole : 0 ≤ e
  · rw [if_pos hwhole]
    exact sign?_roundWithAccuracy S .positive _ _ _
  · rw [if_neg hwhole]
    exact sign?_roundWithAccuracy S .positive _ _ _

/-- A natural number is a score with a plus sign. -/
theorem scoreSign?_toFloat32 (n : Nat) : scoreSign? n.toFloat32 = some .positive := by
  change scoreSign? (Float32.ofScientific n false 0) = _
  unfold Float32.ofScientific
  split
  · have hcast : scoreSign? n.toUInt64.toFloat32 = some .positive :=
      (sign?_unpack_pack _ _).trans (sign?_normalize _ (Int.natCast_nonneg _) _)
    have hone : isZero (Float32.ofBits 0x3F800000).toModel.unpack = false := rfl
    exact ((unsigned_of_sign hcast).scoreSign?_mul_of_ne rfl rfl hone).trans hcast
  · exact (sign?_unpack_pack _ _).trans (sign?_ofScientific _ n _)

theorem scoreSign?_hundred : scoreSign? 100.0 = some .positive := rfl

end Catalogue
