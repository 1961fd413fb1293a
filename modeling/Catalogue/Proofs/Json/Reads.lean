import Catalogue.Proofs.Json.Tokens

/-! # Texts that scan as values

A text that is scanned as some value can stand within a longer one: among the items of an array,
behind the name of a member, and between blanks. -/

namespace Catalogue.Json

/-! ## Scans of texts -/

/-- A text that is scanned as this value, whatever follows that does not carry on a number. Only
blanks of it are left over. -/
structure Reads (cs : List Char) (scan : Scan) : Prop where
  whole : scan.isWhole = true
  begins : ∃ c ds, Scan.dropBlanks cs = c :: ds ∧ c ≠ ']'
  scans : ∀ fuel rest, cs.length < fuel → EndsNumber rest →
    ∃ blanks, IsBlank blanks ∧ Scan.value fuel (cs ++ rest) = (scan, blanks ++ rest)

/-- A text that is scanned as the items of an array, up to its closing bracket. -/
structure ReadsItems (cs : List Char) (items : List Scan) : Prop where
  begins : ∃ c ds, Scan.dropBlanks cs = c :: ds ∧ c ≠ ']'
  scans : ∀ fuel rest, cs.length < fuel →
    Scan.items fuel (cs ++ rest) = (items, .closed, rest)

/-- A text that is scanned as the members of an object, up to its closing brace. -/
structure ReadsMembers (cs : List Char) (members : List (Option String × Scan)) : Prop where
  begins : ∃ c ds, Scan.dropBlanks cs = c :: ds ∧ c ≠ '\x7d'
  scans : ∀ fuel found rest, cs.length < fuel →
    Scan.members fuel found (cs ++ rest) = (.object (found.reverse ++ members) .closed, rest)

theorem value_dropBlanks (fuel : Nat) (cs : List Char) :
    Scan.value (fuel + 1) (Scan.dropBlanks cs) = Scan.value (fuel + 1) cs := by
  rw [Scan.value, Scan.value, dropBlanks_idem]

theorem items_dropBlanks (fuel : Nat) (cs : List Char) :
    Scan.items (fuel + 2) (Scan.dropBlanks cs) = Scan.items (fuel + 2) cs := by
  rw [Scan.items, Scan.items, value_dropBlanks]

theorem members_dropBlanks (fuel : Nat) (found : List (Option String × Scan)) (cs : List Char) :
    Scan.members (fuel + 1) found (Scan.dropBlanks cs) = Scan.members (fuel + 1) found cs := by
  rw [Scan.members, Scan.members, dropBlanks_idem]

theorem length_pos_of_dropBlanks {c : Char} {cs ds : List Char} (h : Scan.dropBlanks cs = c :: ds) :
    0 < cs.length := by
  cases cs with
  | nil => cases h
  | cons => exact Nat.zero_lt_succ _

theorem endsNumber_of_isBlank {c : Char} (hc : Scan.isBlank c = true) (rest : List Char) :
    EndsNumber (c :: rest) := by
  intro d hd
  cases hd
  simp only [Scan.isBlank, Bool.or_eq_true, decide_eq_true_eq] at hc
  rcases hc with ((rfl | rfl) | rfl) | rfl <;> decide

theorem endsNumber_append {blanks rest : List Char} (hblanks : IsBlank blanks)
    (hrest : EndsNumber rest) : EndsNumber (blanks ++ rest) := by
  cases blanks with
  | nil => exact hrest
  | cons c blanks => exact endsNumber_of_isBlank (hblanks c (by simp)) _

section Step

variable {cs ds blanks : List Char} {scan : Scan} {items : List Scan}
  {members : List (Option String × Scan)}

/-! ## Blanks around a value -/

theorem Reads.after_blanks (h : Reads cs scan) (hblanks : IsBlank blanks) :
    Reads (blanks ++ cs) scan where
  whole := h.whole
  begins := by
    obtain ⟨c, ds, hcs, hc⟩ := h.begins
    exact ⟨c, ds, by rw [dropBlanks_append hblanks, hcs], hc⟩
  scans := by
    intro fuel rest hfuel hrest
    rw [List.length_append] at hfuel
    obtain ⟨left, hleft, hvalue⟩ := h.scans fuel rest (by omega) hrest
    obtain ⟨fuel, rfl⟩ : ∃ n, fuel = n + 1 := ⟨fuel - 1, by omega⟩
    refine ⟨left, hleft, ?_⟩
    rw [← hvalue, ← value_dropBlanks, List.append_assoc, dropBlanks_append hblanks,
      value_dropBlanks]

theorem Reads.before_blanks (h : Reads cs scan) (hblanks : IsBlank blanks) :
    Reads (cs ++ blanks) scan where
  whole := h.whole
  begins := by
    obtain ⟨c, ds, hcs, hc⟩ := h.begins
    exact ⟨c, ds ++ blanks, dropBlanks_append_of_cons hcs blanks, hc⟩
  scans := by
    intro fuel rest hfuel hrest
    rw [List.length_append] at hfuel
    obtain ⟨left, hleft, hvalue⟩ := h.scans fuel (blanks ++ rest) (by omega)
      (endsNumber_append hblanks hrest)
    refine ⟨left ++ blanks, ?_, by rw [List.append_assoc, hvalue, List.append_assoc]⟩
    intro c hc
    exact (List.mem_append.mp hc).elim (hleft c) (hblanks c)

/-- What stands after a value is found behind the blanks it leaves. -/
theorem Reads.then (h : Reads cs scan) (c : Char) (hblank : Scan.isBlank c = false)
    (hends : ∀ rest, EndsNumber (c :: rest)) {fuel : Nat} (hfuel : cs.length < fuel)
    (rest : List Char) : ∃ left, Scan.value fuel (cs ++ c :: rest) = (scan, left) ∧
      Scan.dropBlanks left = c :: rest := by
  obtain ⟨left, hleft, hvalue⟩ := h.scans fuel (c :: rest) hfuel (hends rest)
  exact ⟨left ++ c :: rest, hvalue, by rw [dropBlanks_append hleft, dropBlanks_cons hblank]⟩

/-! ## Arrays -/

theorem Reads.last (h : Reads cs scan) : ReadsItems (cs ++ [']']) [scan] where
  begins := by
    obtain ⟨c, ds, hcs, hc⟩ := h.begins
    exact ⟨c, ds ++ [']'], dropBlanks_append_of_cons hcs _, hc⟩
  scans := by
    intro fuel rest hfuel
    rw [List.length_append] at hfuel
    obtain ⟨fuel, rfl⟩ : ∃ n, fuel = n + 1 := ⟨fuel - 1, by omega⟩
    obtain ⟨left, hvalue, hleft⟩ := h.then ']' rfl (fun _ => by simp [EndsNumber])
      (show cs.length < fuel by simp at hfuel; omega) rest
    rw [List.append_assoc, List.singleton_append, Scan.items, hvalue]
    simp only [h.whole, hleft, if_true]

theorem Reads.more (h : Reads cs scan) (hitems : ReadsItems ds items) :
    ReadsItems (cs ++ ',' :: ds) (scan :: items) where
  begins := by
    obtain ⟨c, es, hcs, hc⟩ := h.begins
    exact ⟨c, es ++ ',' :: ds, dropBlanks_append_of_cons hcs _, hc⟩
  scans := by
    intro fuel rest hfuel
    obtain ⟨c, es, hds, hc⟩ := hitems.begins
    have hpos := length_pos_of_dropBlanks hds
    rw [List.length_append, List.length_cons] at hfuel
    obtain ⟨fuel, rfl⟩ : ∃ n, fuel = n + 3 := ⟨fuel - 3, by omega⟩
    obtain ⟨left, hvalue, hleft⟩ := h.then ',' rfl (fun _ => by simp [EndsNumber])
      (show cs.length < fuel + 2 by omega) (ds ++ rest)
    have hmore := hitems.scans (fuel + 2) rest (by omega)
    rw [← items_dropBlanks, dropBlanks_append_of_cons hds] at hmore
    rw [List.append_assoc, List.cons_append, Scan.items, hvalue]
    simp only [h.whole, hleft, if_true, dropBlanks_append_of_cons hds]
    split
    · next heq => cases heq
    · next heq =>
        cases heq
        exact absurd rfl hc
    · rw [hmore]

/-- An array is scanned from its bracket and its items. -/
theorem ReadsItems.array (h : ReadsItems cs items) : Reads ('[' :: cs) (.array items .closed) where
  whole := rfl
  begins := ⟨'[', cs, rfl, by decide⟩
  scans := by
    intro fuel rest hfuel _
    obtain ⟨c, ds, hcs, hc⟩ := h.begins
    have hpos := length_pos_of_dropBlanks hcs
    rw [List.length_cons] at hfuel
    obtain ⟨fuel, rfl⟩ : ∃ n, fuel = n + 3 := ⟨fuel - 3, by omega⟩
    have hitems := h.scans (fuel + 2) rest (by omega)
    rw [← items_dropBlanks, dropBlanks_append_of_cons hcs] at hitems
    refine ⟨[], nofun, ?_⟩
    rw [List.cons_append, Scan.value, dropBlanks_cons rfl]
    simp only [dropBlanks_append_of_cons hcs]
    rw [if_neg (by decide), if_pos trivial]
    split
    · next heq => cases heq
    · next heq =>
        cases heq
        exact absurd rfl hc
    · rw [hitems]
      rfl

/-! ## Objects -/

section Member

variable {fuel : Nat} {found : List (Option String × Scan)} {text left rest : List Char}

theorem members_last (name : String) (hvalue : Scan.value fuel text = (scan, left))
    (hwhole : scan.isWhole = true) (hleft : Scan.dropBlanks left = '\x7d' :: rest) :
    Scan.members (fuel + 1) found (stringText name ++ ':' :: text) =
      (.object (found.reverse ++ [(some name, scan)]) .closed, rest) := by
  have hname := stringAt_stringText name (':' :: text)
  rw [stringText, List.cons_append, List.cons_append, Scan.members, dropBlanks_cons rfl]
  simp only [if_true, List.append_assoc, List.singleton_append, hname, hvalue, hwhole, hleft,
    dropBlanks_cons (show Scan.isBlank ':' = false from rfl), List.reverse_cons]

theorem members_more (name : String) (hvalue : Scan.value fuel text = (scan, left))
    (hwhole : scan.isWhole = true) (hleft : Scan.dropBlanks left = ',' :: rest)
    {c : Char} (hrest : Scan.dropBlanks rest = c :: ds) (hc : c ≠ '\x7d') :
    Scan.members (fuel + 1) found (stringText name ++ ':' :: text) =
      Scan.members fuel ((some name, scan) :: found) (c :: ds) := by
  have hname := stringAt_stringText name (':' :: text)
  rw [stringText, List.cons_append, List.cons_append, Scan.members, dropBlanks_cons rfl]
  simp only [if_true, List.append_assoc, List.singleton_append, hname, hvalue, hwhole, hleft,
    dropBlanks_cons (show Scan.isBlank ':' = false from rfl), hrest]
  split
  · next heq =>
      cases heq
      exact absurd rfl hc
  · rfl

end Member

theorem ReadsMembers.last (name : String) (h : Reads cs scan) :
    ReadsMembers (stringText name ++ ':' :: cs ++ ['\x7d']) [(some name, scan)] where
  begins := ⟨'"', _, dropBlanks_cons rfl _, by decide⟩
  scans := by
    intro fuel found rest hfuel
    simp only [List.length_append, List.length_cons] at hfuel
    obtain ⟨fuel, rfl⟩ : ∃ n, fuel = n + 1 := ⟨fuel - 1, by omega⟩
    obtain ⟨left, hvalue, hleft⟩ := h.then '\x7d' rfl (fun _ => by simp [EndsNumber])
      (show cs.length < fuel by omega) rest
    rw [List.append_assoc, List.append_assoc, List.cons_append, List.singleton_append]
    exact members_last name hvalue h.whole hleft

theorem ReadsMembers.more (name : String) (h : Reads cs scan) (hmembers : ReadsMembers ds members) :
    ReadsMembers (stringText name ++ ':' :: cs ++ ',' :: ds) ((some name, scan) :: members) where
  begins := ⟨'"', _, dropBlanks_cons rfl _, by decide⟩
  scans := by
    intro fuel found rest hfuel
    obtain ⟨c, es, hds, hc⟩ := hmembers.begins
    have hpos := length_pos_of_dropBlanks hds
    simp only [List.length_append, List.length_cons] at hfuel
    obtain ⟨fuel, rfl⟩ : ∃ n, fuel = n + 2 := ⟨fuel - 2, by omega⟩
    obtain ⟨left, hvalue, hleft⟩ := h.then ',' rfl (fun _ => by simp [EndsNumber])
      (show cs.length < fuel + 1 by omega) (ds ++ rest)
    have hmore := hmembers.scans (fuel + 1) ((some name, scan) :: found) rest (by omega)
    rw [← members_dropBlanks, dropBlanks_append_of_cons hds] at hmore
    rw [List.append_assoc, List.append_assoc, List.cons_append, List.cons_append,
      members_more name hvalue h.whole hleft (dropBlanks_append_of_cons hds rest) hc, hmore]
    simp

theorem ReadsMembers.after_blanks (h : ReadsMembers cs members) (hblanks : IsBlank blanks) :
    ReadsMembers (blanks ++ cs) members where
  begins := by
    obtain ⟨c, ds, hcs, hc⟩ := h.begins
    exact ⟨c, ds, by rw [dropBlanks_append hblanks, hcs], hc⟩
  scans := by
    intro fuel found rest hfuel
    rw [List.length_append] at hfuel
    have hmembers := h.scans fuel found rest (by omega)
    obtain ⟨fuel, rfl⟩ : ∃ n, fuel = n + 1 := ⟨fuel - 1, by omega⟩
    rw [← hmembers, ← members_dropBlanks, List.append_assoc, dropBlanks_append hblanks,
      members_dropBlanks]

/-- An object is scanned from its brace and its members. -/
theorem ReadsMembers.object (h : ReadsMembers cs members) :
    Reads ('\x7b' :: cs) (.object members .closed) where
  whole := rfl
  begins := ⟨'\x7b', cs, rfl, by decide⟩
  scans := by
    intro fuel rest hfuel _
    obtain ⟨c, ds, hcs, hc⟩ := h.begins
    have hpos := length_pos_of_dropBlanks hcs
    rw [List.length_cons] at hfuel
    obtain ⟨fuel, rfl⟩ : ∃ n, fuel = n + 2 := ⟨fuel - 2, by omega⟩
    have hmembers := h.scans (fuel + 1) [] rest (by omega)
    rw [← members_dropBlanks, dropBlanks_append_of_cons hcs] at hmembers
    refine ⟨[], nofun, ?_⟩
    rw [List.cons_append, Scan.value, dropBlanks_cons rfl]
    simp only [dropBlanks_append_of_cons hcs]
    rw [if_neg (by decide), if_neg (by decide), if_pos trivial]
    split
    · next heq =>
        cases heq
        exact absurd rfl hc
    · rw [hmembers]
      rfl

end Step

/-! ## Scalars -/

/-- A text that leaves nothing over. -/
theorem Reads.exactly {c : Char} {cs ds : List Char} {scan : Scan} (hwhole : scan.isWhole = true)
    (hcs : Scan.dropBlanks cs = c :: ds) (hc : c ≠ ']')
    (hvalue : ∀ fuel rest, Scan.value (fuel + 1) (cs ++ rest) = (scan, rest)) : Reads cs scan where
  whole := hwhole
  begins := ⟨c, ds, hcs, hc⟩
  scans := by
    intro fuel rest hfuel _
    obtain ⟨fuel, rfl⟩ : ∃ n, fuel = n + 1 := ⟨fuel - 1, by omega⟩
    exact ⟨[], nofun, hvalue fuel rest⟩

theorem reads_null : Reads "null".toList .null :=
  .exactly rfl rfl (by decide) fun _ _ => rfl

theorem reads_emptyArray : Reads ['[', ']'] (.array [] .closed) :=
  .exactly rfl rfl (by decide) fun _ _ => rfl

theorem reads_emptyObject : Reads ['\x7b', '\x7d'] (.object [] .closed) :=
  .exactly rfl rfl (by decide) fun _ _ => rfl

theorem reads_bool (b : Bool) : Reads (compact (.bool b)) (.bool b) := by
  cases b <;> exact .exactly rfl rfl (by decide) fun _ _ => rfl

theorem reads_string (s : String) : Reads (stringText s) (.string (some s)) := by
  rw [stringText, List.cons_append]
  apply Reads.exactly rfl (dropBlanks_cons rfl _) (by decide)
  intro fuel rest
  rw [List.cons_append, Scan.value, dropBlanks_cons rfl]
  simp only [if_true, List.append_assoc, List.singleton_append, stringAt_stringText]

theorem literal_number {value : Scan} {word cs left : List Char} {n : Option Number}
    (h : Scan.literal value word cs = (.number n, left)) : value = .number n := by
  fun_induction Scan.literal value word cs with
  | case1 =>
      cases h
      rfl
  | case2 => cases h
  | case3 _ _ _ ih => exact ih h
  | case4 => cases h

theorem members_number {fuel : Nat} {found : List (Option String × Scan)} {cs left : List Char}
    {n : Option Number} : Scan.members fuel found cs ≠ (.number n, left) := by
  induction fuel generalizing found cs with
  | zero => exact nofun
  | succ fuel ih =>
      intro h
      rw [Scan.members] at h
      split at h
      · cases h
      split at h
      case isFalse => cases h
      split at h
      · cases h
      split at h
      · cases h
      case h_3 => cases h
      dsimp only at h
      split at h
      case isFalse => cases h
      split at h
      · cases h
      · cases h
      · split at h
        · cases h
        · exact ih h
      · cases h

section Digit

variable {c : Char} {cs ds : List Char}

theorem value_minus (h : Scan.dropBlanks cs = '-' :: ds) (fuel : Nat) (more : List Char) :
    Scan.value (fuel + 1) (cs ++ more) = Scan.numberAt true (ds ++ more) := by
  rw [Scan.value, dropBlanks_append_of_cons h]
  rfl

theorem value_digit (h : Scan.dropBlanks cs = c :: ds) (hc : c.isDigit = true) (fuel : Nat)
    (more : List Char) :
    Scan.value (fuel + 1) (cs ++ more) = Scan.numberAt false (c :: ds ++ more) := by
  have hne (d : Char) (hd : d.isDigit = false) : c ≠ d := by
    rintro rfl
    rw [hc] at hd
    cases hd
  rw [Scan.value, dropBlanks_append_of_cons h]
  simp only [hne '"' rfl, hne '[' rfl, hne '\x7b' rfl, hne 't' rfl, hne 'f' rfl, hne 'n' rfl,
    hne '-' rfl, hc, if_true, if_false, List.cons_append]

/-- A value that is a number begins with a digit or with a minus. -/
theorem value_number {fuel : Nat} {left : List Char} {n : Option Number}
    (h : Scan.value (fuel + 1) cs = (.number n, left)) :
    (∃ ds, Scan.dropBlanks cs = '-' :: ds ∧ Scan.numberAt true ds = (.number n, left)) ∨
      ∃ c ds, Scan.dropBlanks cs = c :: ds ∧ c.isDigit = true ∧
        Scan.numberAt false (c :: ds) = (.number n, left) := by
  rw [Scan.value] at h
  split at h
  · cases h
  rename_i c ds hcs
  split at h
  · split at h <;> cases h
  split at h
  · split at h <;> cases h
  split at h
  · split at h
    · cases h
    · exact absurd h members_number
  split at h
  · cases literal_number h
  split at h
  · cases literal_number h
  split at h
  · cases literal_number h
  split at h
  · next hminus =>
      cases hminus
      exact .inl ⟨ds, hcs, h⟩
  split at h
  · next hdigit => exact .inr ⟨c, ds, hcs, hdigit, h⟩
  · cases h

end Digit

/-- A text that is a number is scanned as that number within a longer one. -/
theorem reads_number {fuel : Nat} {cs left : List Char} {n : Option Number}
    (h : Scan.value (fuel + 1) cs = (.number n, left)) (hleft : IsBlank left) :
    Reads cs (.number n) := by
  obtain ⟨ds, hcs, hnumber⟩ | ⟨c, ds, hcs, hc, hnumber⟩ := value_number h
  · refine ⟨rfl, ⟨'-', ds, hcs, by decide⟩, ?_⟩
    intro fuel rest hfuel hrest
    obtain ⟨fuel, rfl⟩ : ∃ n, fuel = n + 1 := ⟨fuel - 1, by omega⟩
    exact ⟨left, hleft, by rw [value_minus hcs, numberAt_append hrest hnumber]⟩
  · refine ⟨rfl, ⟨c, ds, hcs, ?_⟩, ?_⟩
    · rintro rfl
      cases hc
    · intro fuel rest hfuel hrest
      obtain ⟨fuel, rfl⟩ : ∃ n, fuel = n + 1 := ⟨fuel - 1, by omega⟩
      exact ⟨left, hleft, by rw [value_digit hcs hc, numberAt_append hrest hnumber]⟩

/-- A text that scans as a value is read as that value. -/
theorem Reads.ofText {cs : List Char} {scan : Scan} (h : Reads cs scan) :
    Scan.ofText (String.ofList cs) = ⟨scan, false⟩ := by
  obtain ⟨blanks, hblanks, hvalue⟩ := h.scans (2 * cs.length + 2) [] (by omega) nofun
  have hrest := dropBlanks_append hblanks []
  rw [List.append_nil] at hvalue
  simp only [Scan.ofText, String.toList_ofList, hvalue, hrest]
  rfl

/-- A text that is read as a number scans as that number. -/
theorem reads_of_ofText {cs : List Char} {n : Option Number}
    (h : Scan.ofText (String.ofList cs) = ⟨.number n, false⟩) : Reads cs (.number n) := by
  simp only [Scan.ofText, String.toList_ofList, Scan.Document.mk.injEq, Bool.not_eq_false'] at h
  obtain ⟨hvalue, hrest⟩ := h
  exact reads_number (Prod.ext hvalue rfl) (isBlank_of_dropBlanks (List.isEmpty_iff.mp hrest))

theorem reads_natural (n : UInt64) : Reads (Number.natural n).text (.number (some (.natural n))) := by
  cases htext : Nat.toDigits 10 n.toNat with
  | nil => exact absurd htext Nat.toDigits_ne_nil
  | cons c cs =>
      have hc : c.isDigit = true := Toml.isDigit_toDigits n.toNat c (by simp [htext])
      have hblank : Scan.isBlank c = false := by
        cases hblank : Scan.isBlank c with
        | false => rfl
        | true =>
            have hdigit := (endsNumber_of_isBlank hblank [] c rfl).1
            rw [hc] at hdigit
            cases hdigit
      have hvalue := value_digit (dropBlanks_cons hblank cs) hc 0 []
      rw [List.append_nil, ← htext, numberAt_toDigits] at hvalue
      exact reads_number hvalue nofun

end Catalogue.Json
