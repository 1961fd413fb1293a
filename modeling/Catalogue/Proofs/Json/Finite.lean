import Catalogue.Json.Reading
import Catalogue.Proofs.Float.Powers

/-! # Numbers of a text are finite

A number of a text that is out of range has no value, so that every number that has one is finite,
wherever it stands. -/

namespace Catalogue.Json

/-! ## One number -/

theorem powerOfTen_isFinite {k : Nat} (hk : k < 309) : (Scan.powerOfTen k).isFinite = true := by
  by_cases hzero : k = 0
  · subst hzero
    decide +kernel
  · exact isFinite_of_isLarge (powerOfTen_isLarge hk hzero)

/-- Scaling a finite number gives a finite one, if any. -/
theorem scale_isFinite {x y : Float} {power : Int} {more : Nat} (hx : x.isFinite = true)
    (h : Scan.scale x power more = some y) : y.isFinite = true := by
  induction more generalizing x power with
  | zero =>
      cases h
      exact hx
  | succ more ih =>
      rw [Scan.scale] at h
      split at h
      · next hpower =>
          have hfinite := powerOfTen_isFinite (k := power.natAbs) (by omega)
          split at h
          · dsimp only at h
            split at h
            · cases h
            · next hinf =>
                cases h
                exact isFinite_mul hx hfinite (Bool.eq_false_iff.mpr hinf)
          · cases h
            exact isFinite_div_large hx (powerOfTen_isLarge (by omega) (by omega))
      · split at h
        · cases h
          exact hx
        · split at h
          · cases h
          · exact ih (isFinite_div_large hx (powerOfTen_isLarge (by decide) (by decide))) h

def Number.isFinite (n : Number) : Bool := n.toDouble.isFinite

theorem toFloat?_isFinite {s : Scan.Significand} {power : Int} {isNegative : Bool} {n : Number}
    (h : s.toFloat? power isNegative = some n) : n.isFinite = true := by
  rw [Scan.Significand.toFloat?, Option.map_eq_some_iff] at h
  obtain ⟨x, hscale, rfl⟩ := h
  have hx := scale_isFinite (isFinite_toFloat _) hscale
  cases isNegative with
  | true => exact isFinite_neg hx
  | false => exact hx

/-- The value of a number is finite, whatever its digits and its exponent. -/
theorem numberValue_isFinite {isNegative : Bool} {whole : List Nat} {fraction : Option (List Nat)}
    {exponent : Option (Bool × List Nat)} {n : Number}
    (h : Scan.numberValue isNegative whole fraction exponent = some n) : n.isFinite = true := by
  unfold Scan.numberValue at h
  simp only at h
  split at h
  · split at h
    · exact toFloat?_isFinite h
    · split at h
      · cases h
        exact isFinite_toFloat _
      · split at h
        · cases h
          exact isFinite_neg (isFinite_toFloat _)
        · cases h
          change (Number.toDouble _).isFinite = true
          rw [Number.toDouble]
          split
          · exact isFinite_neg (isFinite_toFloat _)
          · exact isFinite_toFloat _
  · split at h
    · exact toFloat?_isFinite h
    · split at h
      · split at h
        · cases h
        · cases h
          cases isNegative <;> decide +kernel
      · exact toFloat?_isFinite h

/-! ## All numbers of a text -/

mutual
/-- A scan whose numbers all have a property. -/
def Scan.Each (p : Number → Prop) : Scan → Prop
  | .number (some n) => p n
  | .array items _ => EachItem p items
  | .object members _ => EachMember p members
  | .misnamed members name => EachMember p members ∧ name.Each p
  | _ => True

def EachItem (p : Number → Prop) : List Scan → Prop
  | [] => True
  | item :: rest => item.Each p ∧ EachItem p rest

def EachMember (p : Number → Prop) : List (Option String × Scan) → Prop
  | [] => True
  | (_, value) :: rest => value.Each p ∧ EachMember p rest
end

abbrev Scan.IsFinite (scan : Scan) : Prop := scan.Each (·.isFinite = true)

theorem eachItem_iff {p : Number → Prop} {items : List Scan} :
    EachItem p items ↔ ∀ item ∈ items, item.Each p := by
  induction items with
  | nil => simp [EachItem]
  | cons item rest ih => simp [EachItem, ih]

theorem eachMember_iff {p : Number → Prop} {members : List (Option String × Scan)} :
    EachMember p members ↔ ∀ m ∈ members, m.2.Each p := by
  induction members with
  | nil => simp [EachMember]
  | cons m rest ih => simp [EachMember, ih]

theorem eachMember_reverse {p : Number → Prop} {members : List (Option String × Scan)}
    (h : EachMember p members) : EachMember p members.reverse := by
  rw [eachMember_iff] at h ⊢
  intro m hm
  exact h m (List.mem_reverse.mp hm)

theorem literal_isFinite (value : Scan) (hvalue : value.IsFinite) (word cs : List Char) :
    (Scan.literal value word cs).1.IsFinite := by
  fun_induction Scan.literal value word cs with
  | case1 => exact hvalue
  | case2 => trivial
  | case3 _ _ _ ih => exact ih
  | case4 => trivial

theorem numberExponent_isFinite (isNegative : Bool) (whole : List Nat) (fraction : Option (List Nat))
    (cs : List Char) : (Scan.numberExponent isNegative whole fraction cs).1.IsFinite := by
  have hvalue (exponent : Option (Bool × List Nat)) :
      (Scan.number (Scan.numberValue isNegative whole fraction exponent)).IsFinite := by
    cases h : Scan.numberValue isNegative whole fraction exponent with
    | none => trivial
    | some n => exact numberValue_isFinite h
  unfold Scan.numberExponent
  split
  · split
    · dsimp only
      split
      · trivial
      · exact hvalue _
    · exact hvalue none
  · exact hvalue none

theorem numberAt_isFinite (isNegative : Bool) (cs : List Char) :
    (Scan.numberAt isNegative cs).1.IsFinite := by
  unfold Scan.numberAt
  split
  · trivial
  · trivial
  · split
    · trivial
    · exact numberExponent_isFinite _ _ _ _
  · exact numberExponent_isFinite _ _ _ _

/-! ## One reader at a time

The readers of values, items and members call one another with less fuel, so each is shown to leave
finite numbers if the others do with less. -/

def ValuesFinite (fuel : Nat) : Prop := ∀ cs, (Scan.value fuel cs).1.IsFinite

def ItemsFinite (fuel : Nat) : Prop := ∀ cs, EachItem (·.isFinite = true) (Scan.items fuel cs).1

def MembersFinite (fuel : Nat) : Prop :=
  ∀ found cs, EachMember (·.isFinite = true) found → (Scan.members fuel found cs).1.IsFinite

section

variable {fuel m : Nat} {cs rest : List Char}

theorem ValuesFinite.value {item : Scan} (h : ValuesFinite m)
    (hscan : Scan.value m cs = (item, rest)) : item.IsFinite := by
  have hitem := h cs
  rw [hscan] at hitem
  exact hitem

theorem ItemsFinite.items {items : List Scan} {close : Close} (h : ItemsFinite m)
    (hscan : Scan.items m cs = (items, close, rest)) : EachItem (·.isFinite = true) items := by
  have hitems := h cs
  rw [hscan] at hitems
  exact hitems

theorem value_isFinite (hitems : ∀ m < fuel, ItemsFinite m)
    (hmembers : ∀ m < fuel, MembersFinite m) : ValuesFinite fuel := by
  intro cs
  fun_cases Scan.value fuel cs with
  | case7 m => exact (hitems m m.lt_succ_self).items ‹Scan.items m _ = _›
  | case9 m => exact hmembers m m.lt_succ_self [] _ trivial
  | case10 => exact literal_isFinite (.bool true) trivial _ _
  | case11 => exact literal_isFinite (.bool false) trivial _ _
  | case12 => exact literal_isFinite .null trivial _ _
  | case13 => exact numberAt_isFinite true _
  | case14 => exact numberAt_isFinite false _
  | _ => trivial

theorem items_isFinite (hvalue : ∀ m < fuel, ValuesFinite m)
    (hitems : ∀ m < fuel, ItemsFinite m) : ItemsFinite fuel := by
  intro cs
  fun_cases Scan.items fuel cs with
  | case1 => exact ⟨trivial, trivial⟩
  | case6 m =>
      have hitem := (hvalue m m.lt_succ_self).value ‹Scan.value m _ = _›
      exact ⟨hitem, (hitems m m.lt_succ_self).items ‹Scan.items m _ = _›⟩
  | case2 m | case3 m | case4 m | case5 m | case7 m | case8 m =>
      have hitem := (hvalue m m.lt_succ_self).value ‹Scan.value m _ = _›
      exact ⟨hitem, trivial⟩

theorem members_isFinite (hvalue : ∀ m < fuel, ValuesFinite m)
    (hmembers : ∀ m < fuel, MembersFinite m) : MembersFinite fuel := by
  intro found cs hfound
  fun_cases Scan.members fuel found cs with
  | case1 => exact ⟨eachMember_reverse hfound, trivial⟩
  | case2 | case3 => exact eachMember_reverse hfound
  | case4 | case11 => exact eachMember_reverse ⟨trivial, hfound⟩
  | case5 m | case6 m | case7 m | case9 m | case10 m =>
      have hitem := (hvalue m m.lt_succ_self).value ‹Scan.value m _ = _›
      exact eachMember_reverse ⟨hitem, hfound⟩
  | case8 m =>
      have hitem := (hvalue m m.lt_succ_self).value ‹Scan.value m _ = _›
      exact hmembers m m.lt_succ_self _ _ ⟨hitem, hfound⟩
  | case12 m =>
      have hname := (hvalue m m.lt_succ_self).value ‹Scan.value m _ = _›
      exact ⟨eachMember_reverse hfound, hname⟩

end

/-- What is scanned holds finite numbers only, with any fuel. -/
theorem scanned_isFinite (fuel : Nat) :
    ValuesFinite fuel ∧ ItemsFinite fuel ∧ MembersFinite fuel := by
  induction fuel using Nat.strongRecOn with
  | ind fuel ih =>
      have hvalue (m : Nat) (hm : m < fuel) : ValuesFinite m := (ih m hm).1
      have hitems (m : Nat) (hm : m < fuel) : ItemsFinite m := (ih m hm).2.1
      have hmembers (m : Nat) (hm : m < fuel) : MembersFinite m := (ih m hm).2.2
      exact ⟨value_isFinite hitems hmembers, items_isFinite hvalue hitems,
        members_isFinite hvalue hmembers⟩

/-- The numbers of a text are finite, if they have a value. -/
theorem ofText_isFinite (text : String) : (Scan.ofText text).value.IsFinite :=
  (scanned_isFinite (2 * text.toList.length + 2)).1 text.toList

end Catalogue.Json
