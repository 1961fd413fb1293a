import Catalogue.Index.Place

/-! # The order of bytes

Texts are ordered by their characters, tokens in an index by their bytes. The two orders are one:
the bytes of a smaller character come first, and no character's bytes begin with another's. -/

namespace Catalogue

/-! ## The bytes of a text -/

theorem byteArray_toList_loop (b : ByteArray) (i : Nat) (r : List UInt8) :
    ByteArray.toList.loop b i r = r.reverse ++ b.data.toList.drop i := by
  fun_induction ByteArray.toList.loop b i r with
  | case1 i r h ih =>
      have hi : i < b.data.toList.length := h
      rw [ih, List.drop_eq_getElem_cons hi, List.reverse_cons, List.append_assoc]
      have hget : b.get! i = b.data.toList[i] := by
        rw [ByteArray.get!, Array.getElem_toList, getElem!_pos]
      rw [hget]
      rfl
  | case2 i r h =>
      have hi : b.data.toList.length ≤ i := Nat.le_of_not_lt h
      rw [List.drop_eq_nil_of_le hi, List.append_nil]

theorem textBytes_eq (s : String) : textBytes s = s.toList.flatMap String.utf8EncodeChar := by
  rw [textBytes, String.toUTF8_eq_toByteArray, ← String.utf8Encode_toList, List.utf8Encode,
    ByteArray.toList, byteArray_toList_loop]
  simp

/-! ## The bytes of two characters -/

/-- Two runs of bytes part: after a common beginning, the first has a smaller byte. -/
inductive Parts : List UInt8 → List UInt8 → Prop where
  | here {a b : UInt8} {as bs : List UInt8} : a < b → Parts (a :: as) (b :: bs)
  | later {a : UInt8} {as bs : List UInt8} : Parts as bs → Parts (a :: as) (a :: bs)

theorem Parts.append_lt {as bs : List UInt8} (h : Parts as bs) (cs ds : List UInt8) :
    as ++ cs < bs ++ ds := by
  induction h with
  | here hlt => exact List.cons_lt_cons_iff.mpr (.inl hlt)
  | later _ ih => exact List.cons_lt_cons_iff.mpr (.inr ⟨rfl, ih⟩)

/-- Numbers that are bytes part where they differ first. -/
theorem Parts.ofNat {m n : Nat} {as bs : List UInt8} (hn : n < 256) (hle : m ≤ n)
    (h : m = n → Parts as bs) : Parts (.ofNat m :: as) (.ofNat n :: bs) := by
  rcases Nat.lt_or_eq_of_le hle with hlt | rfl
  · exact .here ((UInt8.ofNat_lt_iff_lt (Nat.lt_trans hlt hn) hn).mpr hlt)
  · exact .later (h rfl)

/-- The bytes of a smaller character part from those of a greater one. -/
theorem utf8EncodeChar_parts {c d : Char} (h : c < d) :
    Parts (String.utf8EncodeChar c) (String.utf8EncodeChar d) := by
  have hlt : c.val.toNat < d.val.toNat := h
  have hd : d.val.toNat < 1114112 := by
    rcases d.valid with hv | ⟨_, hv⟩ <;> omega
  unfold String.utf8EncodeChar
  simp only
  generalize c.val.toNat = m at hlt
  generalize d.val.toNat = n at hlt hd
  repeat' split
  -- A character of more bytes is not smaller than one of fewer.
  all_goals try (exfalso; omega)
  -- Byte by byte; those of fewer bytes part at the first.
  all_goals refine .ofNat (by omega) (by omega) fun _ => ?_
  all_goals try (exfalso; omega)
  all_goals refine .ofNat (by omega) (by omega) fun _ => ?_
  all_goals try (exfalso; omega)
  all_goals refine .ofNat (by omega) (by omega) fun _ => ?_
  all_goals try (exfalso; omega)
  all_goals refine .ofNat (by omega) (by omega) fun _ => ?_
  all_goals exfalso; omega

/-! ## The order of texts -/

theorem flatMap_utf8_lt {cs ds : List Char} (h : cs < ds) :
    cs.flatMap String.utf8EncodeChar < ds.flatMap String.utf8EncodeChar := by
  induction h with
  | @nil d ds =>
      rw [List.flatMap_nil, List.flatMap_cons]
      cases hd : String.utf8EncodeChar d with
      | nil => exact absurd hd String.utf8EncodeChar_ne_nil
      | cons b bs => exact List.nil_lt_cons _ _
  | cons _ ih =>
      rw [List.flatMap_cons, List.flatMap_cons]
      exact List.append_left_lt ih
  | rel hlt =>
      rw [List.flatMap_cons, List.flatMap_cons]
      exact (utf8EncodeChar_parts hlt).append_lt _ _

theorem textBytes_lt_iff (s t : String) : textBytes s < textBytes t ↔ s < t := by
  have forward : ∀ {u v : String}, u < v → textBytes u < textBytes v := by
    intro u v h
    rw [textBytes_eq, textBytes_eq]
    exact flatMap_utf8_lt h
  refine ⟨fun h => ?_, forward⟩
  by_cases hst : s < t
  · exact hst
  · by_cases hts : t < s
    · exact absurd (forward hts) (List.lt_asymm h)
    · cases String.le_antisymm hts hst
      exact absurd h (List.lt_irrefl _)

theorem textBytes_le_iff (s t : String) : textBytes s ≤ textBytes t ↔ s ≤ t :=
  not_congr (textBytes_lt_iff t s)

end Catalogue
