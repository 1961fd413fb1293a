import Catalogue.Toml.Text

/-! # Quoted text reads back

A text is quoted in one of four ways. Each is read back, whatever the text is and whatever but a
quote follows. In a text of several lines a run of quotes may meet those that end it, so that the
reader looks ahead; no run is longer than two. -/

namespace Catalogue.Toml

/-! ## Escapes -/

/-- In front of the quotes that end a text of several lines, a reader sees its end if only quotes
are left, and none before. -/
theorem closing_append {quote : Char} {cs rest : List Char}
    (hrun : (cs.takeWhile (· = quote)).length ≤ 2) (hrest : rest.head? ≠ some quote) :
    closing quote (cs ++ List.replicate 3 quote ++ rest) =
      if cs.all (· = quote) then some (cs, rest) else none := by
  have hstop : rest.takeWhile (· = quote) = [] := by
    cases rest with
    | nil => rfl
    | cons c rest => exact List.takeWhile_cons_of_neg (by simpa using hrest)
  rw [closing, ← List.take_takeWhile, List.append_assoc, List.takeWhile_append]
  by_cases hall : cs.all (· = quote) = true
  · obtain ⟨k, rfl⟩ : ∃ k, cs = List.replicate k quote :=
      ⟨_, List.eq_replicate_iff.mpr ⟨rfl, by simpa using hall⟩⟩
    have hk : k ≤ 2 := by simpa using hrun
    have hruns : (List.replicate 3 quote ++ rest).takeWhile (· = quote) =
        List.replicate 3 quote := by
      rw [List.takeWhile_append_of_pos (by simp), hstop, List.append_nil]
    rw [hruns, ← List.append_assoc, List.replicate_append_replicate]
    simp [hall, show k + 3 ≤ 5 by omega]
  · have hopen : (cs.takeWhile (· = quote)).length ≠ cs.length := by
      intro h
      rw [← (List.takeWhile_prefix _).eq_of_length h] at hall
      exact hall List.all_takeWhile
    rw [if_neg hopen, if_neg (by rw [List.length_take]; omega), if_neg hall]

/-- What both readers of text of several lines do with characters that stand as they are. -/
structure ReadsLines (quote : Char) (stands : Char → Prop) (read : List Char → Piece) : Prop where
  ends : ∀ {cs found}, closing quote cs = some found → read cs = some found
  keeps : ∀ {c cs}, stands c → closing quote (c :: cs) = none →
    read (c :: cs) = Piece.cons c (read cs)

section ReadsLines

variable {quote : Char} {stands : Char → Prop} {read : List Char → Piece}

theorem ReadsLines.nil (h : ReadsLines quote stands read) {rest : List Char}
    (hrest : rest.head? ≠ some quote) :
    read (List.replicate 3 quote ++ rest) = some ([], rest) := by
  have hclose : closing quote ([] ++ List.replicate 3 quote ++ rest) = some ([], rest) :=
    closing_append (Nat.zero_le 2) hrest
  exact h.ends hclose

theorem ReadsLines.cons (h : ReadsLines quote stands read) {c : Char} {text cs rest : List Char}
    (hc : stands c) (hrun : ((c :: text).takeWhile (· = quote)).length ≤ 2)
    (hrest : rest.head? ≠ some quote) (hall : text.all (· = quote) = true → text = cs)
    (ih : read (text ++ List.replicate 3 quote ++ rest) = some (cs, rest)) :
    read (c :: text ++ List.replicate 3 quote ++ rest) = some (c :: cs, rest) := by
  have hclose := closing_append hrun hrest
  split at hclose
  · next hquotes =>
      rw [h.ends hclose, hall (by simp at hquotes; simpa using hquotes.2)]
  · rw [List.cons_append, List.cons_append] at hclose ⊢
    rw [h.keeps hc hclose, ih]
    rfl

end ReadsLines

/-- What a text has to be for a quoting to hold it as it is. The other quotings escape. -/
def Quoting.Fits (cs : List Char) : Quoting → Prop
  | basic | basicLines => True
  | literal => '\'' ∉ cs ∧ ∀ c ∈ cs, isControl c = false
  | literalLines => longestRun '\'' 0 0 cs ≤ 2 ∧ ∀ c ∈ cs, isControl c = true → c = '\n'

end Catalogue.Toml
