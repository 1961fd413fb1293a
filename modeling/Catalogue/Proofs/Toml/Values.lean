import Catalogue.Proofs.Toml.Quoted

/-! # Values read back

Texts, whole numbers of up to 64 bits and lists of them are read back as they were written, if
nothing follows that could carry them on. -/

namespace Catalogue.Toml

/-! ## Numbers -/

theorem ofDigits_map (cs : List Char) :
    ofDigits 10 (cs.map fun c => c.toNat - '0'.toNat) = Nat.ofDigitChars 10 cs 0 := by
  rw [ofDigits, List.foldl_map, Nat.ofDigitChars_eq_foldl]

theorem head?_toDigits {n : Nat} (h : n ≠ 0) :
    ((Nat.toDigits 10 n).map fun c => c.toNat - '0'.toNat).head? ≠ some 0 := by
  induction n using Nat.strongRecOn with
  | ind n ih =>
      rw [Nat.toDigits_eq_if (by decide)]
      split
      · next hlt =>
          have hdigit : ∀ d < 10, d ≠ 0 →
              ([d.digitChar].map fun c => c.toNat - '0'.toNat).head? ≠ some 0 := by decide
          exact hdigit n hlt h
      · have hhead := ih (n / 10) (by omega) (by omega)
        have hne := @Nat.toDigits_ne_nil (n / 10) 10
        revert hhead hne
        cases Nat.toDigits 10 (n / 10) <;> simp

theorem isDigit_toDigits (n : Nat) : ∀ c ∈ Nat.toDigits 10 n, c.isDigit = true :=
  fun _ hc => Nat.isDigit_of_mem_toDigits (by decide) (by decide) hc

section Digits

variable {cs : List Char}

end Digits

/-- Whether a text cannot carry on the value before it. -/
def EndsValue (rest : List Char) : Prop :=
  ∀ c ∈ rest.head?, isWordChar c = false ∧ c ≠ ' ' ∧ c ≠ '"' ∧ c ≠ '\''

/-- Whether a character begins a value, and is no blank, comment or end of a list. -/
def beginsValue (c : Char) : Bool := !(['\t', '\n', '\r', ' ', '#', ']'].contains c)

/-- Whether a text is a value, so that a reader takes it for that value and takes no more. -/
structure IsValue (v : Toml) (depth : Nat) (text : List Char) : Prop where
  begins : ∃ c cs, text = c :: cs ∧ beginsValue c = true
  reads : ∀ rest, EndsValue rest → value depth (text ++ rest) = some (v, rest)

theorem takeWhile_append_stop {p : Char → Bool} {word rest : List Char}
    (hword : ∀ c ∈ word, p c = true) (hrest : ∀ c ∈ rest.head?, p c = false) :
    (word ++ rest).takeWhile p = word ∧ (word ++ rest).dropWhile p = rest := by
  rw [List.takeWhile_append_of_pos hword, List.dropWhile_append_of_pos hword]
  cases rest with
  | nil => simp
  | cons c rest => simp [hrest c rfl]

theorem IsValue.skipSpace_append {v : Toml} {depth : Nat} {text : List Char}
    (h : IsValue v depth text) (rest : List Char) : skipSpace (text ++ rest) = text ++ rest := by
  obtain ⟨c, cs, rfl, hc⟩ := h.begins
  simp [beginsValue] at hc
  simp [skipSpace, isSpace, hc]

section Items

variable {reader : ValueReader} {v : Toml} {c : Char} {text cs rest : List Char}

end Items

end Catalogue.Toml
