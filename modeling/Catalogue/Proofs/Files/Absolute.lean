import Catalogue.Files.Tree
import Catalogue.Proofs.Outcome
import Catalogue.Settings.Location

/-! # Absolute paths

An absolute path leads to one place wherever it is seen from, and what is seen from an absolute
directory is absolute. A file that can be read is in such a directory, because only the root is in
none and the root is no file. -/

namespace Catalogue

namespace Path

variable {p dir : Path}

theorem isAbsolute_iff : p.isAbsolute = true ↔ ∃ cs, p.text.toList = '/' :: cs := by
  rw [isAbsolute, decide_eq_true_eq, List.head?_eq_some_iff]

theorem isAbsolute_append (h : p.isAbsolute = true) (more : String) :
    (⟨p.text ++ more⟩ : Path).isAbsolute = true := by
  obtain ⟨cs, hcs⟩ := isAbsolute_iff.mp h
  simp [isAbsolute, hcs]

theorem isAbsolute_join (h : dir.isAbsolute = true) : (dir.join p).isAbsolute = true := by
  unfold join
  split
  · assumption
  split
  · exact isAbsolute_append h p.text
  · rw [String.append_assoc]
    exact isAbsolute_append h ("/" ++ p.text)

theorem join_of_isAbsolute (h : p.isAbsolute = true) (base : Path) : base.join p = p := if_pos h

theorem pieces_of_isAbsolute (h : p.isAbsolute = true) :
    ∃ rest, pieces p.text.toList = ([], rest) := by
  obtain ⟨cs, hcs⟩ := isAbsolute_iff.mp h
  exact ⟨_, by rw [hcs, pieces]; rfl⟩

theorem parent?_isAbsolute (h : p.isAbsolute = true) (hdir : p.parent? = some dir) :
    dir.isAbsolute = true := by
  obtain ⟨rest, hrest⟩ := pieces_of_isAbsolute h
  simp only [parent?, hrest] at hdir
  split at hdir
  · cases hdir
    rename_i before _
    rw [isAbsolute, String.toList_ofList]
    cases (dropIdle before).reverse <;> rfl
  · cases hdir

/-- Only the root, however it is written, is absolute and in no directory. -/
theorem isIdle_of_parent? (h : p.isAbsolute = true) (hnone : p.parent? = none) :
    ∀ piece ∈ (pieces p.text.toList).2, isIdle piece = true := by
  obtain ⟨rest, hrest⟩ := pieces_of_isAbsolute h
  simp only [parent?, hrest] at hnone
  split at hnone
  · cases hnone
  · next heq =>
      have hall := @List.takeWhile_append_dropWhile _ isIdle rest.reverse
      rw [← dropIdle, heq, List.append_nil] at hall
      intro piece hpiece
      rw [hrest] at hpiece
      have hmem : piece ∈ rest.reverse.takeWhile isIdle := by
        rw [hall]
        exact List.mem_reverse.mpr hpiece
      exact List.all_eq_true.mp List.all_takeWhile piece hmem

end Path

end Catalogue
