import Catalogue.Proofs.Score.Order
import Catalogue.Search.Ranking

/-! # The order of a ranking

Matches that can be ranked have scores that are numbers, and among numbers the comparison of
scores is total and transitive. A stable sort of matches that come in the order of the index puts
the better one first and, of equal ones, the one that comes first in the index. -/

namespace Catalogue

/-! ## Sorting what comes in an order -/

section

variable {α : Type} {le : α → α → Bool} {first : α → α → Prop}

/-- What sorts equal keeps the order it came in. -/
theorem pairwise_mergeSort_stable (trans : ∀ a b c, le a b → le b c → le a c)
    (total : ∀ a b, le a b || le b a) {l : List α} (hl : l.Pairwise first) :
    (l.mergeSort le).Pairwise fun a b => le a b = true ∧ (le b a = true → first a b) := by
  have hsorted := List.pairwise_mergeSort (List.zipIdxLE_trans trans) (List.zipIdxLE_total total)
    l.zipIdx
  have hperm := List.mergeSort_perm l.zipIdx (List.zipIdxLE le)
  have hne : (l.zipIdx.mergeSort (List.zipIdxLE le)).Pairwise fun a b => a.2 ≠ b.2 := by
    refine (hperm.pairwise_iff fun h => Ne.symm h).mpr ?_
    rw [← List.pairwise_map, List.zipIdx_map_snd]
    exact List.nodup_range'
  rw [← List.mergeSort_zipIdx, List.pairwise_map]
  refine (hsorted.and hne).imp_of_mem fun {a b} ha hb h => ?_
  obtain ⟨hle, hidx⟩ := h
  have hla := List.mem_zipIdx_iff_getElem?.mp (hperm.mem_iff.mp ha)
  have hlb := List.mem_zipIdx_iff_getElem?.mp (hperm.mem_iff.mp hb)
  obtain ⟨hia, hea⟩ := List.getElem?_eq_some_iff.mp hla
  obtain ⟨hib, heb⟩ := List.getElem?_eq_some_iff.mp hlb
  have hab : le a.1 b.1 = true := by
    cases hab : le a.1 b.1 with
    | true => rfl
    | false => simp [List.zipIdxLE, hab] at hle
  refine ⟨hab, fun hba => ?_⟩
  have hlt : a.2 < b.2 := by
    simp only [List.zipIdxLE, hab, hba, if_true, decide_eq_true_eq] at hle
    omega
  rw [← hea, ← heb]
  exact List.pairwise_iff_getElem.mp hl a.2 b.2 hia hib hlt

/-- The same when the comparison is total on what is sorted, if not on everything. -/
theorem pairwise_mergeSort_stable_of {P : α → Prop}
    (trans : ∀ a b c, le a b → le b c → le a c) (total : ∀ a b, P a → P b → le a b || le b a)
    {l : List α} (hP : ∀ a ∈ l, P a) (hl : l.Pairwise first) :
    (l.mergeSort le).Pairwise fun a b => le a b = true ∧ (le b a = true → first a b) := by
  have hmap : (l.attachWith P hP).map Subtype.val = l := List.attachWith_map_subtype_val hP
  have hattach : (l.attachWith P hP).Pairwise fun a b => first a.1 b.1 := by
    rw [← List.pairwise_map (f := Subtype.val), hmap]
    exact hl
  have hsorted : ((l.attachWith P hP).mergeSort fun a b => le a.1 b.1).Pairwise fun a b =>
      le a.1 b.1 = true ∧ (le b.1 a.1 = true → first a.1 b.1) :=
    pairwise_mergeSort_stable (fun a b c => trans a.1 b.1 c.1)
      (fun a b => total a.1 b.1 a.2 b.2) hattach
  have hsort : l.mergeSort le = ((l.attachWith P hP).mergeSort fun a b => le a.1 b.1).map
      Subtype.val := by
    rw [List.map_mergeSort (s := le) fun _ _ _ _ => rfl, hmap]
  rw [hsort, List.pairwise_map]
  exact hsorted

end

end Catalogue
