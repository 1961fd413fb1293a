/-! # The order of scores

Scores that are numbers are ordered: negative infinity, the negative numbers, the zeros, the
positive numbers and infinity. Among the numbers of one sign the exponent decides, then the
mantissa. What is not a number is not comparable with anything, not even with itself. -/

namespace Catalogue

open Float.Model

/-- Where a number is in the order: its sort, and its exponent and mantissa, counted backwards if
it is negative. -/
def orderKey : UnpackedFloat → Option (Int × Int × Int)
  | .notANumber => none
  | .infinity .negative => some (-2, 0, 0)
  | .finite .negative m e _ => some (-1, -e, -m)
  | .zero _ => some (0, 0, 0)
  | .finite .positive m e _ => some (1, e, m)
  | .infinity .positive => some (2, 0, 0)

def compareKeys (j k : Int × Int × Int) : Ordering :=
  (compare j.1 k.1).then ((compare j.2.1 k.2.1).then (compare j.2.2 k.2.2))

def KeyLe (j k : Int × Int × Int) : Prop :=
  j.1 < k.1 ∨ j.1 = k.1 ∧ (j.2.1 < k.2.1 ∨ j.2.1 = k.2.1 ∧ j.2.2 ≤ k.2.2)

theorem KeyLe.total (j k : Int × Int × Int) : KeyLe j k ∨ KeyLe k j := by
  unfold KeyLe
  omega

theorem KeyLe.trans {j k l : Int × Int × Int} (h : KeyLe j k) (h' : KeyLe k l) : KeyLe j l := by
  unfold KeyLe at *
  omega

theorem compareKeys_isLE_iff (j k : Int × Int × Int) :
    (compareKeys j k).isLE = true ↔ KeyLe j k := by
  simp only [compareKeys, Ordering.isLE_then_iff_or, Int.compare_eq_lt, Int.compare_eq_eq,
    Int.isLE_compare, KeyLe]

theorem compareKeys_eq_lt_iff (j k : Int × Int × Int) :
    compareKeys j k = .lt ↔ ¬KeyLe k j := by
  simp only [compareKeys, Ordering.then_eq_lt, Int.compare_eq_lt, Int.compare_eq_eq, KeyLe]
  omega

theorem compare_neg (a b : Int) : compare (-a) (-b) = (compare a b).swap := by
  rw [Int.compare_swap]
  simp only [Int.compare_eq_ite_lt, Int.neg_lt_neg_iff]

theorem compare_cast (m n : Nat) : compare (m : Int) (n : Int) = compare m n := by
  simp only [Int.compare_eq_ite_lt, Nat.compare_eq_ite_lt, Int.ofNat_lt]

/-- Numbers compare as their keys. -/
theorem compare_eq_compareKeys (x y : UnpackedFloat) :
    x.compare y = (orderKey x).bind fun j => (orderKey y).map (compareKeys j) := by
  rcases x with (_ | _) | _ | _ | ⟨_ | _, m, d, _⟩ <;>
    rcases y with (_ | _) | _ | _ | ⟨_ | _, n, e, _⟩
  all_goals try rfl
  case finite.negative.finite.negative =>
    change some ((compare d e).then (compare m n)).swap =
      some ((compare (-d) (-e)).then (compare (-(m : Int)) (-n)))
    rw [compare_neg, compare_neg, compare_cast, Ordering.swap_then]
  case finite.positive.finite.positive =>
    change some ((compare d e).then (compare m n)) =
      some ((compare d e).then (compare (m : Int) n))
    rw [compare_cast]

/-! ## Scores -/

/-- What is comparable with itself is a number. -/
def IsNumber (x : Float32) : Prop := x ≤ x

def scoreKey (x : Float32) : Option (Int × Int × Int) := orderKey x.toModel.unpack

theorem score_le_iff {x y : Float32} :
    x ≤ y ↔ ∃ j k, scoreKey x = some j ∧ scoreKey y = some k ∧ KeyLe j k := by
  have h : x ≤ y ↔ (x.toModel.unpack.compare y.toModel.unpack).any (·.isLE) = true :=
    decide_eq_true_iff
  rw [h, compare_eq_compareKeys]
  change ((scoreKey x).bind fun j => (scoreKey y).map (compareKeys j)).any (·.isLE) = true ↔ _
  cases scoreKey x <;> cases scoreKey y <;> simp [compareKeys_isLE_iff]

theorem score_lt_iff {x y : Float32} :
    x < y ↔ ∃ j k, scoreKey x = some j ∧ scoreKey y = some k ∧ ¬KeyLe k j := by
  have h : x < y ↔ (x.toModel.unpack.compare y.toModel.unpack == some .lt) = true :=
    decide_eq_true_iff
  rw [h, compare_eq_compareKeys, beq_iff_eq]
  change ((scoreKey x).bind fun j => (scoreKey y).map (compareKeys j)) = some .lt ↔ _
  cases scoreKey x <;> cases scoreKey y <;> simp [compareKeys_eq_lt_iff]

theorem score_le_trans {x y z : Float32} (h : x ≤ y) (h' : y ≤ z) : x ≤ z := by
  obtain ⟨j, k, hx, hy, hjk⟩ := score_le_iff.mp h
  obtain ⟨k', l, hy', hz, hkl⟩ := score_le_iff.mp h'
  cases hy.symm.trans hy'
  exact score_le_iff.mpr ⟨j, l, hx, hz, hjk.trans hkl⟩

theorem score_le_total {x y : Float32} (hx : IsNumber x) (hy : IsNumber y) : x ≤ y ∨ y ≤ x := by
  obtain ⟨j, _, hj, _⟩ := score_le_iff.mp hx
  obtain ⟨k, _, hk, _⟩ := score_le_iff.mp hy
  rcases KeyLe.total j k with h | h
  · exact .inl (score_le_iff.mpr ⟨j, k, hj, hk, h⟩)
  · exact .inr (score_le_iff.mpr ⟨k, j, hk, hj, h⟩)

theorem score_le_of_lt {x y : Float32} (h : x < y) : x ≤ y := by
  obtain ⟨j, k, hj, hk, hnot⟩ := score_lt_iff.mp h
  exact score_le_iff.mpr ⟨j, k, hj, hk, (KeyLe.total k j).resolve_left hnot⟩

theorem score_not_le_of_lt {x y : Float32} (h : x < y) : ¬y ≤ x := by
  obtain ⟨j, k, hj, hk, hnot⟩ := score_lt_iff.mp h
  rw [score_le_iff]
  simp [hj, hk, hnot]

/-- What is above a score is a number. -/
theorem isNumber_of_lt {x y : Float32} (h : x < y) : IsNumber y := by
  obtain ⟨_, k, _, hk, _⟩ := score_lt_iff.mp h
  refine score_le_iff.mpr ⟨k, k, hk, hk, ?_⟩
  rcases KeyLe.total k k with h | h <;> exact h

/-- Of two numbers one is smaller exactly if it is not as great as the other. -/
theorem score_lt_iff_not_le {x y : Float32} (hx : IsNumber x) (hy : IsNumber y) :
    x < y ↔ ¬y ≤ x := by
  obtain ⟨j, _, hj, _⟩ := score_le_iff.mp hx
  obtain ⟨k, _, hk, _⟩ := score_le_iff.mp hy
  rw [score_lt_iff, score_le_iff]
  simp [hj, hk]

end Catalogue
