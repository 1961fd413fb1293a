import Catalogue.Proofs.Toml.Sections
import Catalogue.Proofs.Toml.Values

/-! # Lines read back

A member is written on lines of its own, and so is a header. A reader that comes to such lines
passes over them, whatever follows, and the document grows by what they say. -/

namespace Catalogue.Toml

/-! ## Names -/

def isBare (name : String) : Bool := name ≠ "" && name.toList.all isNameChar

theorem isBare_cons {w : String} (h : isBare w = true) :
    ∃ c cs, w.toList = c :: cs ∧ isNameChar c = true := by
  simp only [isBare, Bool.and_eq_true, decide_eq_true_eq, List.all_eq_true] at h
  cases hw : w.toList with
  | nil => exact absurd (by simpa using hw) h.1
  | cons c cs => exact ⟨c, cs, rfl, h.2 c (by simp [hw])⟩

theorem name_append {w : String} (h : isBare w = true) {rest : List Char}
    (hrest : ∀ c ∈ rest.head?, isNameChar c = false) :
    name (w.toList ++ rest) = some (w, rest) := by
  obtain ⟨c, cs, hw, hc⟩ := isBare_cons h
  have hall : ∀ c ∈ w.toList, isNameChar c = true := by
    simp only [isBare, Bool.and_eq_true, List.all_eq_true] at h
    exact h.2
  obtain ⟨htake, hdrop⟩ := takeWhile_append_stop hall hrest
  unfold name
  split
  · next heq =>
      rw [hw, List.cons_append, List.cons.injEq] at heq
      exact absurd (heq.1 ▸ hc) (by decide)
  · next heq =>
      rw [hw, List.cons_append, List.cons.injEq] at heq
      exact absurd (heq.1 ▸ hc) (by decide)
  · simp only [htake, hdrop]
    rw [if_neg (by simp [hw]), String.ofList_toList]

theorem skipSpace_append {w : String} (h : isBare w = true) (rest : List Char) :
    skipSpace (w.toList ++ rest) = w.toList ++ rest := by
  obtain ⟨c, cs, hw, hc⟩ := isBare_cons h
  have hspace : isSpace c = false := by
    simp only [isSpace, Bool.or_eq_false_iff, decide_eq_false_iff_not]
    constructor <;> rintro rfl <;> cases hc
  rw [hw, skipSpace, List.cons_append, List.dropWhile_cons_of_neg (by simp [hspace])]

def dottedText (path : List String) : List Char := ['.'].intercalate (path.map String.toList)

theorem dottedText_cons (w v : String) (path : List String) :
    dottedText (w :: v :: path) = w.toList ++ '.' :: dottedText (v :: path) := by
  simp [dottedText, List.intercalate_cons_cons]

theorem names_append {path : List String} {last : String}
    (h : ∀ w ∈ path ++ [last], isBare w = true) {rest : List Char}
    (hrest : ∀ c ∈ rest.head?, isNameChar c = false) (hdot : (skipSpace rest).head? ≠ some '.')
    {n : Nat} (hn : path.length < n) :
    names n (dottedText (path ++ [last]) ++ rest) = some ((path, last), skipSpace rest) := by
  obtain ⟨m, rfl⟩ : ∃ m, n = m + 1 := ⟨n - 1, by omega⟩
  induction path generalizing m with
  | nil =>
      have hlast := h last (by simp)
      have htext : dottedText ([] ++ [last]) = last.toList := by simp [dottedText]
      rw [htext, names, skipSpace_append hlast, name_append hlast hrest, Option.bind_eq_bind,
        Option.bind_some]
      simp only
      split
      · next heq => exact absurd (by rw [heq]; rfl) hdot
      · rfl
  | cons w path ih =>
      have hw := h w (by simp)
      obtain ⟨v, vs, hpath⟩ : ∃ v vs, path ++ [last] = v :: vs :=
        List.exists_cons_of_ne_nil (by simp)
      have htext : dottedText (w :: path ++ [last]) =
          w.toList ++ '.' :: dottedText (path ++ [last]) := by
        rw [List.cons_append, hpath, dottedText_cons]
      obtain ⟨k, rfl⟩ : ∃ k, m = k + 1 := ⟨m - 1, by simp at hn; omega⟩
      have hrest' := ih (fun v hv => h v (List.mem_cons_of_mem w hv)) k (by simp at hn; omega)
      rw [htext, List.append_assoc, names, skipSpace_append hw, List.cons_append,
        name_append hw (by simp [isNameChar]), Option.bind_eq_bind, Option.bind_some]
      simp [skipSpace, isSpace, hrest']

/-- A text that readers of lines pass over, which changes the document as far as it was read. -/
def Passes (text : List Char) (d d' : Draft) : Prop :=
  ∀ rest n, (text ++ rest).length < n →
    ∃ m, rest.length < m ∧ lines n d (text ++ rest) = lines m d' rest

theorem Passes.append {text more : List Char} {d e d' : Draft} (h : Passes text d e)
    (hmore : Passes more e d') : Passes (text ++ more) d d' := by
  intro rest n hn
  rw [List.append_assoc] at hn ⊢
  obtain ⟨m, hm, hlines⟩ := h (more ++ rest) n hn
  obtain ⟨k, hk, hlines'⟩ := hmore rest m hm
  exact ⟨k, hk, hlines.trans hlines'⟩

end Catalogue.Toml
