import Catalogue.Json.Reading
import Catalogue.Json.Text
import Catalogue.Proofs.Toml.Values

/-! # Strings and numbers read back

A string is scanned up to its own quote, whatever follows. A number is scanned as far as it goes,
so that what follows must not carry it on. -/

namespace Catalogue.Json

/-! ## Blanks -/

def IsBlank (cs : List Char) : Prop := ∀ c ∈ cs, Scan.isBlank c = true

theorem dropBlanks_append {blanks : List Char} (h : IsBlank blanks) (cs : List Char) :
    Scan.dropBlanks (blanks ++ cs) = Scan.dropBlanks cs :=
  List.dropWhile_append_of_pos h

theorem dropBlanks_cons {c : Char} (h : Scan.isBlank c = false) (cs : List Char) :
    Scan.dropBlanks (c :: cs) = c :: cs := by
  simp [Scan.dropBlanks, h]

theorem dropBlanks_idem (cs : List Char) :
    Scan.dropBlanks (Scan.dropBlanks cs) = Scan.dropBlanks cs := by
  induction cs with
  | nil => rfl
  | cons c cs ih => cases hc : Scan.isBlank c <;> simp_all [Scan.dropBlanks]

theorem dropBlanks_append_of_cons {c : Char} {cs ds : List Char} (h : Scan.dropBlanks cs = c :: ds)
    (rest : List Char) : Scan.dropBlanks (cs ++ rest) = c :: (ds ++ rest) := by
  rw [Scan.dropBlanks] at h ⊢
  rw [List.dropWhile_append, h]
  rfl

theorem isBlank_of_dropBlanks {cs : List Char} (h : Scan.dropBlanks cs = []) : IsBlank cs := by
  induction cs with
  | nil => exact nofun
  | cons c cs ih =>
      cases hc : Scan.isBlank c with
      | false => simp [Scan.dropBlanks, hc] at h
      | true =>
          simp only [Scan.dropBlanks, hc, List.dropWhile_cons_of_pos] at h
          exact List.forall_mem_cons.mpr ⟨hc, ih h⟩

theorem isBlank_space : IsBlank [' '] := by
  intro c hc
  rw [List.mem_singleton.mp hc]
  rfl

theorem isBlank_newLine (level : Nat) : IsBlank (newLine level) := by
  intro c hc
  rcases List.mem_cons.mp hc with rfl | hc
  · rfl
  · rw [List.eq_of_mem_replicate hc]
    rfl

/-! ## Strings -/

theorem hexDigit?_digitChar : ∀ d < 16, Scan.hexDigit? (Nat.digitChar d) = some d := by
  decide

/-- A control character is scanned from its four hexadecimal digits. -/
theorem stringFrom_control {c : Char} (hc : c.toNat < 0x20) (p : Scan.Partial) (rest : List Char) :
    Scan.stringFrom .plain p ('\\' :: 'u' :: '0' :: '0' :: Nat.digitChar (c.toNat / 16) ::
      Nat.digitChar (c.toNat % 16) :: rest) =
      Scan.stringFrom .plain { p with chars := c :: p.chars } rest := by
  have hzero : Scan.hexDigit? '0' = some 0 := rfl
  have hhigh := hexDigit?_digitChar (c.toNat / 16) (by omega)
  have hlow := hexDigit?_digitChar (c.toNat % 16) (by omega)
  have hvalue : c.toNat / 16 * 16 + c.toNat % 16 = c.toNat := by omega
  have hlead : ¬(0xD800 ≤ c.toNat ∧ c.toNat ≤ 0xDBFF) := by omega
  have htrail : ¬(0xDC00 ≤ c.toNat ∧ c.toNat ≤ 0xDFFF) := by omega
  simp [Scan.stringFrom, hzero, hhigh, hlow, hvalue, hlead, htrail, Scan.Partial.pushUnit]

theorem stringFrom_escapeChar (c : Char) (p : Scan.Partial) (rest : List Char) :
    Scan.stringFrom .plain p (escapeChar c ++ rest) =
      Scan.stringFrom .plain { p with chars := c :: p.chars } rest := by
  unfold escapeChar
  split
  all_goals first | rfl | skip
  next hquote hslash _ _ _ _ _ =>
    split
    · next hc => exact stringFrom_control hc p rest
    · next hc =>
        rw [List.singleton_append, Scan.stringFrom, if_neg hquote, if_neg hslash, if_neg hc]

theorem stringFrom_flatMap (cs : List Char) (chars rest : List Char) :
    Scan.stringFrom .plain ⟨chars, true⟩ (cs.flatMap escapeChar ++ '"' :: rest) =
      .ok (some (String.ofList (chars.reverse ++ cs)), rest) := by
  induction cs generalizing chars with
  | nil => simp [Scan.stringFrom, Scan.Partial.result]
  | cons c cs ih =>
      rw [List.flatMap_cons, List.append_assoc, stringFrom_escapeChar, ih]
      simp

/-- A written string is scanned as that string. -/
theorem stringAt_stringText (s : String) (rest : List Char) :
    Scan.stringAt (s.toList.flatMap escapeChar ++ '"' :: rest) = .ok (some s, rest) := by
  rw [Scan.stringAt, stringFrom_flatMap]
  simp

/-! ## Numbers -/

/-- Whether a text cannot carry on the number before it. -/
def EndsNumber (rest : List Char) : Prop :=
  ∀ c ∈ rest.head?, c.isDigit = false ∧ c ≠ '.' ∧ c ≠ 'e' ∧ c ≠ 'E'

variable {rest : List Char}

theorem digits_append (hrest : EndsNumber rest) (cs : List Char) :
    Scan.digits (cs ++ rest) = ((Scan.digits cs).1, (Scan.digits cs).2 ++ rest) := by
  have hstop : rest.takeWhile Char.isDigit = [] ∧ rest.dropWhile Char.isDigit = rest := by
    cases rest with
    | nil => exact ⟨rfl, rfl⟩
    | cons c rest => simp [(hrest c rfl).1]
  induction cs with
  | nil => simp [Scan.digits, hstop]
  | cons c cs ih =>
      simp only [Scan.digits, Prod.mk.injEq] at ih
      cases hc : c.isDigit <;> simp [Scan.digits, hc, ih, List.filterMap_cons]

/-- Whether an exponent is negative, and what follows its sign. -/
def exponentSign : List Char → Bool × List Char
  | '+' :: cs => (false, cs)
  | '-' :: cs => (true, cs)
  | cs => (false, cs)

theorem exponentSign_append {cs : List Char} (hcs : cs ≠ []) (rest : List Char) :
    exponentSign (cs ++ rest) = ((exponentSign cs).1, (exponentSign cs).2 ++ rest) := by
  cases cs with
  | nil => exact absurd rfl hcs
  | cons c cs =>
      by_cases hplus : c = '+'
      · rw [hplus]
        rfl
      · by_cases hminus : c = '-'
        · rw [hminus]
          rfl
        · simp [exponentSign, hplus, hminus]

theorem numberExponent_signed {c : Char} (hc : (c = 'e' || c = 'E') = true) (isNegative : Bool)
    (whole : List Nat) (fraction : Option (List Nat)) (cs : List Char) :
    Scan.numberExponent isNegative whole fraction (c :: cs) =
      match Scan.digits (exponentSign cs).2 with
      | ([], rest) => Scan.numberFault rest
      | (ds, rest) =>
        (.number (Scan.numberValue isNegative whole fraction (some ((exponentSign cs).1, ds))),
          rest) := by
  unfold Scan.numberExponent
  exact if_pos hc

theorem numberExponent_append (hrest : EndsNumber rest) {isNegative : Bool} {whole : List Nat}
    {fraction : Option (List Nat)} {cs left : List Char} {n : Option Number}
    (h : Scan.numberExponent isNegative whole fraction cs = (.number n, left)) :
    Scan.numberExponent isNegative whole fraction (cs ++ rest) = (.number n, left ++ rest) := by
  cases cs with
  | nil =>
      cases h
      cases rest with
      | nil => rfl
      | cons c rest =>
          obtain ⟨_, _, he, hE⟩ := hrest c rfl
          simp [Scan.numberExponent, he, hE]
  | cons c cs =>
      rw [List.cons_append]
      by_cases hc : (c = 'e' || c = 'E') = true
      · have hcs : cs ≠ [] := by
          rintro rfl
          rw [numberExponent_signed hc] at h
          cases h
        rw [numberExponent_signed hc] at h ⊢
        rw [exponentSign_append hcs, digits_append hrest]
        generalize Scan.digits (exponentSign cs).2 = scanned at *
        obtain ⟨_ | ⟨d, ds⟩, after⟩ := scanned
        · cases h
        · cases h
          rfl
      · unfold Scan.numberExponent at h ⊢
        dsimp only at h ⊢
        rw [if_neg hc] at h ⊢
        cases h
        rfl

/-- Reads the fraction, if there is one, and finishes the number. -/
def numberFraction (isNegative : Bool) (whole : List Nat) : List Char → Scan × List Char
  | '.' :: rest =>
    match Scan.digits rest with
    | ([], rest) => Scan.numberFault rest
    | (fraction, rest) => Scan.numberExponent isNegative whole (some fraction) rest
  | rest => Scan.numberExponent isNegative whole none rest

theorem numberFraction_append (hrest : EndsNumber rest) {isNegative : Bool} {whole : List Nat}
    {cs left : List Char} {n : Option Number}
    (h : numberFraction isNegative whole cs = (.number n, left)) :
    numberFraction isNegative whole (cs ++ rest) = (.number n, left ++ rest) := by
  by_cases hpoint : ∃ ds, cs = '.' :: ds
  · obtain ⟨ds, rfl⟩ := hpoint
    rw [List.cons_append]
    rw [numberFraction] at h ⊢
    rw [digits_append hrest]
    generalize Scan.digits ds = scanned at *
    obtain ⟨_ | ⟨d, fraction⟩, after⟩ := scanned
    · cases h
    · exact numberExponent_append hrest h
  · have hnone (more : List Char) (hmore : EndsNumber more) :
        numberFraction isNegative whole (cs ++ more) =
          Scan.numberExponent isNegative whole none (cs ++ more) := by
      unfold numberFraction
      split
      · next ds heq =>
          cases cs with
          | nil => exact absurd rfl (hmore '.' (by rw [← List.nil_append more, heq]; rfl)).2.1
          | cons c cs =>
              cases heq
              exact absurd ⟨_, rfl⟩ hpoint
      · rfl
    have hself := hnone [] nofun
    rw [List.append_nil] at hself
    rw [hnone rest hrest]
    exact numberExponent_append hrest (hself ▸ h)

theorem numberAt_fraction {isNegative : Bool} {cs after : List Char} {whole : List Nat}
    (h : Scan.digits cs = (whole, after)) (hne : whole ≠ [])
    (hzero : ∀ d ds, whole ≠ 0 :: d :: ds) :
    Scan.numberAt isNegative cs = numberFraction isNegative whole after := by
  unfold Scan.numberAt numberFraction
  rw [h]
  split
  · next heq =>
      cases heq
      exact absurd rfl hne
  · next heq =>
      cases heq
      exact absurd rfl (hzero _ _)
  · next heq =>
      cases heq
      rfl
  · next hpoint heq =>
      cases heq
      split
      · exact absurd rfl (hpoint _)
      · rfl

theorem numberAt_append (hrest : EndsNumber rest) {isNegative : Bool} {cs left : List Char}
    {n : Option Number} (h : Scan.numberAt isNegative cs = (.number n, left)) :
    Scan.numberAt isNegative (cs ++ rest) = (.number n, left ++ rest) := by
  have hdigits : Scan.digits cs = ((Scan.digits cs).1, (Scan.digits cs).2) := rfl
  have hne : (Scan.digits cs).1 ≠ [] := by
    intro hnil
    rw [hnil] at hdigits
    rw [Scan.numberAt, hdigits] at h
    cases h
  have hzero (d : Nat) (ds : List Nat) : (Scan.digits cs).1 ≠ 0 :: d :: ds := by
    intro hcons
    rw [hcons] at hdigits
    rw [Scan.numberAt, hdigits] at h
    cases h
  rw [numberAt_fraction hdigits hne hzero] at h
  rw [numberAt_fraction (digits_append hrest cs) hne hzero]
  exact numberFraction_append hrest h

/-! ## Natural numbers -/

theorem le_foldl_digits (ds : List Nat) (n : Nat) : n ≤ ds.foldl (fun n d => n * 10 + d) n := by
  induction ds generalizing n with
  | nil => exact Nat.le_refl n
  | cons d ds ih => exact Nat.le_trans (by omega) (ih (n * 10 + d))

theorem foldl_pushWhole {ds : List Nat} {n : Nat}
    (h : ds.foldl (fun n d => n * 10 + d) n < UInt64.size) :
    ds.foldl Scan.Significand.pushWhole ⟨n, 0, false⟩ =
      ⟨ds.foldl (fun n d => n * 10 + d) n, 0, false⟩ := by
  induction ds generalizing n with
  | nil => rfl
  | cons d ds ih =>
      have hfits : n * 10 + d < UInt64.size := Nat.lt_of_le_of_lt (le_foldl_digits ds _) h
      have hpush : Scan.Significand.pushWhole ⟨n, 0, false⟩ d = ⟨n * 10 + d, 0, false⟩ := by
        simp [Scan.Significand.pushWhole, Nat.not_le.mpr hfits]
      rw [List.foldl_cons, hpush]
      exact ih h

theorem filterMap_digit? {cs : List Char} (h : ∀ c ∈ cs, c.isDigit = true) :
    cs.filterMap Scan.digit? = cs.map fun c => c.toNat - '0'.toNat := by
  induction cs with
  | nil => rfl
  | cons c cs ih =>
      obtain ⟨hc, hcs⟩ := List.forall_mem_cons.mp h
      have hdigit : Scan.digit? c = some (c.toNat - '0'.toNat) := if_pos hc
      rw [List.filterMap_cons_some hdigit, ih hcs, List.map_cons]

theorem digits_toDigits (n : Nat) : Scan.digits (Nat.toDigits 10 n) =
    ((Nat.toDigits 10 n).map fun c => c.toNat - '0'.toNat, []) := by
  have hdigits := Toml.isDigit_toDigits n
  rw [Scan.digits, ← List.append_nil (Nat.toDigits 10 n), List.takeWhile_append_of_pos hdigits,
    List.dropWhile_append_of_pos hdigits, List.takeWhile_nil, List.append_nil,
    filterMap_digit? hdigits]
  rfl

/-- A natural number of 64 bits is read back from its digits. -/
theorem numberAt_toDigits (n : UInt64) :
    Scan.numberAt false (Nat.toDigits 10 n.toNat) = (.number (some (.natural n)), []) := by
  have hvalue : ((Nat.toDigits 10 n.toNat).map fun c => c.toNat - '0'.toNat).foldl
      (fun n d => n * 10 + d) 0 = n.toNat := by
    have h := Toml.ofDigits_map (Nat.toDigits 10 n.toNat)
    simp only [Toml.ofDigits, Nat.mul_comm 10] at h
    rw [h, Nat.ofDigitChars_ten_toDigits]
  rw [numberAt_fraction (digits_toDigits n.toNat) (by simp)]
  · simp only [numberFraction, Scan.numberExponent, Scan.numberValue]
    rw [foldl_pushWhole (by rw [hvalue]; exact n.toNat_lt), hvalue]
    simp
  · intro d ds hcons
    by_cases hn : n.toNat = 0
    · rw [hn] at hcons
      cases hcons
    · apply Toml.head?_toDigits hn
      rw [hcons]
      rfl

end Catalogue.Json
