import Catalogue.Proofs.Json.Finite
import Catalogue.Proofs.Query.Reading

/-! # What is read from a text

A query that is read from a text has finite numbers and, written, nests less deeply than a text may,
however the text spells it. Only its boosts may be infinite: they are rounded to 32 bits after the
range of the number is checked. -/

namespace Catalogue

open Json

/-! ## What a reader yields -/

section Readers

variable {α β σ : Type} {depth : Nat}

/-- What a reader makes of data with finite numbers, with so many levels of the text left. -/
def Yields (read : Reader α) (depth : Nat) (p : α → Prop) : Prop :=
  ∀ scan a, scan.IsFinite → read (.text depth) scan = .ok a → p a

theorem enter_text {inner : Form} (h : (Form.text depth).enter = .ok inner) :
    ∃ d, depth = d + 2 ∧ inner = .text (d + 1) := by
  match depth with
  | 0 | 1 => cases h
  | d + 2 =>
      cases h
      exact ⟨d, rfl, rfl⟩

theorem unexpected_ne_ok (expected : String) (scan : Scan) {a : α} :
    scan.unexpected expected ≠ .ok a := by
  unfold Scan.unexpected
  split <;> exact nofun

theorem readDouble_yields (depth : Nat) : Yields readDouble depth (fun x => x.isFinite = true) := by
  intro scan x hscan h
  unfold readDouble at h
  split at h
  · cases h
    exact hscan
  · exact absurd h (unexpected_ne_ok _ _)

theorem knownTag_eq_ok {variants : List String} {name tag : String}
    (h : knownTag variants name = .ok tag) : tag = name ∧ variants.contains name = true := by
  unfold knownTag at h
  split at h
  · next hname =>
      cases h
      exact ⟨rfl, hname⟩
  · cases h

/-- A tag is read alone, or with what it carries one level further in. -/
theorem readTagged_yields {variants : List String} {read : String → Content → Read α} {p : α → Prop}
    (hbare : ∀ name a, variants.contains name = true → read name .bare = .ok a → p a)
    (hgiven : ∀ d name, depth = d + 2 → variants.contains name = true →
      Yields (fun form scan => read name (.given form scan)) (d + 1) p) :
    Yields (readTagged variants read) depth p := by
  intro scan a hscan h
  cases scan with
  | null => cases h
  | bool b => cases h
  | number n => cases h
  | string s =>
      cases s with
      | none => cases h
      | some name =>
          obtain ⟨tag, htag, hread⟩ := bind_eq_ok_iff.mp h
          obtain ⟨rfl, hname⟩ := knownTag_eq_ok htag
          exact hbare _ a hname hread
  | array items close => cases h
  | object members close =>
      cases members with
      | nil =>
          cases close with
          | closed => cases h
          | broken next skipped stop =>
              obtain ⟨inner, _, hfault⟩ := bind_eq_ok_iff.mp h
              cases hfault
      | cons member rest =>
          obtain ⟨name, value⟩ := member
          obtain ⟨inner, henter, h⟩ := bind_eq_ok_iff.mp h
          obtain ⟨d, hdepth, rfl⟩ := enter_text henter
          cases name with
          | none => cases h
          | some name =>
              obtain ⟨tag, htag, hcontent⟩ := bind_eq_ok_iff.mp h
              obtain ⟨rfl, hname⟩ := knownTag_eq_ok htag
              obtain ⟨result, hread, hend⟩ := bind_eq_ok_iff.mp hcontent
              have hresult : result = a := by
                dsimp only at hend
                split at hend
                · obtain ⟨_, _, hpure⟩ := bind_eq_ok_iff.mp hend
                  cases hpure
                  rfl
                · cases hend
              exact hresult ▸ hgiven d tag hdepth hname value result hscan.1 hread
  | misnamed members key =>
      cases members with
      | nil =>
          obtain ⟨inner, _, hfault⟩ := bind_eq_ok_iff.mp h
          exact absurd hfault (unexpected_ne_ok _ _)
      | cons member rest =>
          obtain ⟨name, value⟩ := member
          obtain ⟨inner, _, h⟩ := bind_eq_ok_iff.mp h
          cases name with
          | none => cases h
          | some name =>
              obtain ⟨_, _, h⟩ := bind_eq_ok_iff.mp h
              obtain ⟨_, _, hfault⟩ := bind_eq_ok_iff.mp h
              cases hfault
  | broken b => cases h

section Records

variable {shape : Shape σ} {inv : σ → Prop}

theorem readMembers_yields {d : Nat}
    (hfield : ∀ name found, inv found → Yields (shape.field name found) d inv)
    {members : List (Option String × Scan)} (hmembers : EachMember (·.isFinite = true) members)
    {found result : σ} (hfound : inv found)
    (h : shape.readMembers (.text d) found members = .ok result) : inv result := by
  induction members generalizing found with
  | nil =>
      cases h
      exact hfound
  | cons member rest ih =>
      obtain ⟨name, value⟩ := member
      cases name with
      | none => cases h
      | some name =>
          rw [Shape.readMembers] at h
          split at h
          · obtain ⟨next, hnext, hrest⟩ := bind_eq_ok_iff.mp h
            exact ih hmembers.2 (hfield name found hfound value next hmembers.1 hnext) hrest
          · split at h
            · cases h
            · obtain ⟨_, _, hrest⟩ := bind_eq_ok_iff.mp h
              exact ih hmembers.2 hfound hrest

theorem readItems_yields {d : Nat}
    (hfield : ∀ name found, inv found → Yields (shape.field name found) d inv) {close : Close}
    {index : Nat} {names : List String} {items left : List Scan}
    (hitems : EachItem (·.isFinite = true) items) {found result : σ} (hfound : inv found)
    (h : shape.readItems (.text d) close index found names items = .ok (result, left)) :
    inv result := by
  induction names generalizing index items found with
  | nil =>
      cases h
      exact hfound
  | cons name names ih =>
      cases items with
      | nil =>
          obtain ⟨_, _, h⟩ := bind_eq_ok_iff.mp h
          split at h
          · cases h
          · cases h
            exact hfound
      | cons item items =>
          obtain ⟨next, hnext, hrest⟩ := bind_eq_ok_iff.mp h
          exact ih hitems.2 (hfield name found hfound item next hitems.1 hnext) hrest

/-- A record keeps what holds of no fields and is kept by reading each of them, whether it is
written as an object or as an array. -/
theorem Shape.read_yields (hempty : inv shape.empty)
    (hfield : ∀ d name found, depth = d + 2 → inv found →
      Yields (shape.field name found) (d + 1) inv) :
    Yields shape.read depth (fun found => inv found ∧ 2 ≤ depth) := by
  intro scan result hscan h
  cases scan with
  | array items close =>
      obtain ⟨inner, henter, h⟩ := bind_eq_ok_iff.mp h
      obtain ⟨d, hdepth, rfl⟩ := enter_text henter
      obtain ⟨⟨found, left⟩, hitems, h⟩ := bind_eq_ok_iff.mp h
      have hresult : found = result := by
        dsimp only at h
        split at h
        · obtain ⟨_, _, h⟩ := bind_eq_ok_iff.mp h
          cases h
          rfl
        · cases h
      exact ⟨hresult ▸ readItems_yields (fun name found => hfield d name found hdepth) hscan hempty
        hitems, by omega⟩
  | object members close =>
      obtain ⟨inner, henter, h⟩ := bind_eq_ok_iff.mp h
      obtain ⟨d, hdepth, rfl⟩ := enter_text henter
      obtain ⟨found, hmembers, h⟩ := bind_eq_ok_iff.mp h
      obtain ⟨_, _, hresult⟩ := bind_eq_ok_iff.mp h
      cases hresult
      exact ⟨readMembers_yields (fun name found => hfield d name found hdepth) hscan hempty hmembers,
        by omega⟩
  | misnamed members name =>
      obtain ⟨inner, _, h⟩ := bind_eq_ok_iff.mp h
      obtain ⟨_, _, hfault⟩ := bind_eq_ok_iff.mp h
      cases hfault
  | null => exact absurd h (unexpected_ne_ok shape.expected .null)
  | bool b => exact absurd h (unexpected_ne_ok shape.expected (.bool b))
  | number n => exact absurd h (unexpected_ne_ok shape.expected (.number n))
  | string s => exact absurd h (unexpected_ne_ok shape.expected (.string s))
  | broken b => exact absurd h (unexpected_ne_ok shape.expected (.broken b))

end Records

theorem fill_eq_ok {name : String} {place filled : Option α} {read : Read α}
    (h : fill name place read = .ok filled) : ∃ a, read = .ok a ∧ some a = filled := by
  cases place with
  | some b => cases h
  | none => exact map_eq_ok_iff.mp h

theorem requirePair_eq_ok {first second : String} {found : Option α × Option β} {a : α} {b : β}
    (h : requirePair first second found = .ok (a, b)) : found = (some a, some b) := by
  obtain ⟨_ | x, _ | y⟩ := found <;> cases h
  rfl

/-- A record of two fields holds what their readers yield, however many it requires. -/
theorem pairShape_yields (required : Nat) {expected first second : String} {readFirst : Reader α}
    {readSecond : Reader β} {p : α → Prop} {q : β → Prop}
    (hfirst : ∀ d, depth = d + 2 → Yields readFirst (d + 1) p)
    (hsecond : ∀ d, depth = d + 2 → Yields readSecond (d + 1) q) :
    Yields (Shape.read { pairShape expected first second readFirst readSecond with required }) depth
      (fun found => ((∀ a ∈ found.1, p a) ∧ ∀ b ∈ found.2, q b) ∧ 2 ≤ depth) := by
  apply Shape.read_yields
  · exact ⟨nofun, nofun⟩
  · intro d name found hdepth hfound scan result hscan h
    simp only [pairShape] at h
    split at h
    · obtain ⟨filled, hfilled, hresult⟩ := bind_eq_ok_iff.mp h
      obtain ⟨a, ha, rfl⟩ := fill_eq_ok hfilled
      cases hresult
      refine ⟨?_, hfound.2⟩
      intro a' ha'
      cases ha'
      exact hfirst d hdepth scan a hscan ha
    · obtain ⟨filled, hfilled, hresult⟩ := bind_eq_ok_iff.mp h
      obtain ⟨b, hb, rfl⟩ := fill_eq_ok hfilled
      cases hresult
      refine ⟨hfound.1, ?_⟩
      intro b' hb'
      cases hb'
      exact hsecond d hdepth scan b hscan hb

theorem readList_yields {read : Reader α} {p : α → Prop}
    (hread : ∀ d, depth = d + 2 → Yields read (d + 1) p) :
    Yields (readList read) depth (fun as => (∀ a ∈ as, p a) ∧ 2 ≤ depth) := by
  intro scan as hscan h
  unfold readList at h
  split at h
  · next items close =>
      obtain ⟨inner, henter, h⟩ := bind_eq_ok_iff.mp h
      obtain ⟨d, hdepth, rfl⟩ := enter_text henter
      obtain ⟨values, hvalues, h⟩ := bind_eq_ok_iff.mp h
      obtain ⟨_, _, hresult⟩ := bind_eq_ok_iff.mp h
      cases hresult
      refine ⟨?_, by omega⟩
      intro a ha
      obtain ⟨item, hitem, hread'⟩ := mem_of_mapM_eq_ok hvalues ha
      exact hread d hdepth item a (eachItem_iff.mp hscan item hitem) hread'
  · exact absurd h (unexpected_ne_ok _ _)

end Readers

/-! ## Terms and ranges -/

theorem Point.read_yields {depth : Nat} : Yields Point.read depth (fun p =>
    (p.latitude.isFinite = true ∧ p.longitude.isFinite = true) ∧ 2 ≤ depth) := by
  intro scan p hscan h
  obtain ⟨found, hfound, h⟩ := bind_eq_ok_iff.mp h
  obtain ⟨⟨latitude, longitude⟩, hpair, h⟩ := bind_eq_ok_iff.mp h
  cases h
  obtain ⟨hfields, hdepth⟩ := pairShape_yields 2 (fun _ _ => readDouble_yields _)
    (fun _ _ => readDouble_yields _) scan found hscan hfound
  rw [requirePair_eq_ok hpair] at hfields
  exact ⟨⟨hfields.1 _ rfl, hfields.2 _ rfl⟩, hdepth⟩

/-- A term that is read has finite numbers and nests, written, less deeply than was left. -/
def Term.Readable (depth : Nat) (t : Term) : Prop :=
  t.Each (fun x => x.isFinite = true) ∧ t.toJson.nesting < depth

theorem Term.read_yields {depth : Nat} : Yields Term.read depth (Term.Readable depth) := by
  apply readTagged_yields
  · intro name t _ h
    split at h <;> cases h
  · intro d name hdepth _ scan t hscan h
    dsimp only at h
    split at h
    · obtain ⟨s, _, rfl⟩ := map_eq_ok_iff.mp h
      refine ⟨trivial, ?_⟩
      simp only [Term.toJson, nesting, nestingOfMembers]
      omega
    · obtain ⟨x, hx, rfl⟩ := map_eq_ok_iff.mp h
      refine ⟨readDouble_yields (d + 1) scan x hscan hx, ?_⟩
      simp only [Term.toJson, nesting, nestingOfMembers, nesting_ofDouble]
      omega
    · obtain ⟨b, _, rfl⟩ := map_eq_ok_iff.mp h
      refine ⟨trivial, ?_⟩
      simp only [Term.toJson, nesting, nestingOfMembers]
      omega
    · obtain ⟨p, hp, rfl⟩ := map_eq_ok_iff.mp h
      obtain ⟨hfinite, hinner⟩ := Point.read_yields scan p hscan hp
      refine ⟨hfinite, ?_⟩
      simp only [Term.toJson, nesting, nestingOfMembers, nesting_ofDouble]
      omega

def Range.Parts.Readable (depth : Nat) (parts : Range.Parts) : Prop :=
  (∀ t ∈ parts.lower, t.Readable depth) ∧ ∀ t ∈ parts.upper, t.Readable depth

theorem Range.shape_yields {depth : Nat} : Yields Range.shape.read depth
    (fun parts => parts.Readable (depth - 1) ∧ 2 ≤ depth) := by
  apply Shape.read_yields
  · exact ⟨nofun, nofun⟩
  · intro d name found hdepth hfound scan result hscan h
    subst hdepth
    simp only [Range.shape] at h
    split at h <;> obtain ⟨filled, hfilled, hresult⟩ := bind_eq_ok_iff.mp h <;> cases hresult
    case h_2 =>
      obtain ⟨t, ht, rfl⟩ := fill_eq_ok hfilled
      refine ⟨?_, hfound.2⟩
      intro t' ht'
      cases ht'
      exact Term.read_yields scan t hscan ht
    case h_3 =>
      obtain ⟨t, ht, rfl⟩ := fill_eq_ok hfilled
      refine ⟨hfound.1, ?_⟩
      intro t' ht'
      cases ht'
      exact Term.read_yields scan t hscan ht
    all_goals exact hfound

theorem require_eq_ok {α : Type} {name : String} {place : Option α} {a : α}
    (h : require name place = .ok a) : place = some a := by
  cases place <;> cases h
  rfl

theorem Range.read_yields {depth : Nat} : Yields Range.read depth (fun r =>
    (r.lower.Readable (depth - 1) ∧ r.upper.Readable (depth - 1)) ∧ 2 ≤ depth) := by
  intro scan r hscan h
  obtain ⟨parts, hparts, h⟩ := bind_eq_ok_iff.mp h
  obtain ⟨field, _, h⟩ := bind_eq_ok_iff.mp h
  obtain ⟨lower, hlower, h⟩ := bind_eq_ok_iff.mp h
  obtain ⟨upper, hupper, h⟩ := bind_eq_ok_iff.mp h
  obtain ⟨hreadable, hdepth⟩ := Range.shape_yields scan parts hscan hparts
  have hbounds := And.intro (hreadable.1 lower (require_eq_ok hlower))
    (hreadable.2 upper (require_eq_ok hupper))
  split at h
  · next made hmade =>
      cases h
      unfold Range.make at hmade
      split at hmade <;> cases hmade
      exact ⟨hbounds, hdepth⟩
  · cases h

/-! ## Queries -/

def Query.Readable (depth : Nat) (q : Query) : Prop :=
  q.Each (fun x => x.isFinite = true) (fun _ => True) ∧ q.toJson.nesting < depth

section Readable

variable {d : Nat}

theorem Query.readable_text (field s : String) (hd : 1 ≤ d) :
    (Query.text field s).Readable (d + 2) := by
  refine ⟨trivial, ?_⟩
  simp only [Query.toJson, nesting, nestingOfMembers]
  omega

theorem Query.readable_term (field : String) {t : Term} (h : t.Readable d) :
    (Query.term field t).Readable (d + 2) := by
  obtain ⟨hfinite, hnesting⟩ := h
  refine ⟨hfinite, ?_⟩
  simp only [Query.toJson, nesting, nestingOfMembers]
  omega

theorem Query.readable_range {r : Range} (hlower : r.lower.Readable d) (hupper : r.upper.Readable d) :
    (Query.range r).Readable (d + 2) := by
  obtain ⟨hfiniteLower, hnestingLower⟩ := hlower
  obtain ⟨hfiniteUpper, hnestingUpper⟩ := hupper
  refine ⟨⟨hfiniteLower, hfiniteUpper⟩, ?_⟩
  simp only [Query.toJson, Range.toJson, nesting, nestingOfMembers]
  omega

theorem Query.readable_weighted {q : Query} (h : q.Readable d) (boost : Float32) :
    (Query.constantScore q boost).Readable (d + 2) ∧ (Query.boosted q boost).Readable (d + 2) := by
  obtain ⟨hfinite, hnesting⟩ := h
  refine ⟨⟨⟨hfinite, trivial⟩, ?_⟩, ⟨hfinite, trivial⟩, ?_⟩ <;>
    simp only [Query.toJson, nesting, nestingOfMembers, nesting_ofSingle] <;> omega

theorem nestingOfItems_clauses_le {clauses : List (Occur × Query)} {n : Nat}
    (h : ∀ clause ∈ clauses, clause.2.toJson.nesting < n) :
    nestingOfItems (clausesToJson clauses) ≤ n := by
  induction clauses with
  | nil => exact Nat.zero_le n
  | cons clause rest ih =>
      obtain ⟨hclause, hrest⟩ := List.forall_mem_cons.mp h
      have hle := ih hrest
      simp only [clausesToJson, nestingOfItems, nesting, nestingOfMembers]
      omega

theorem eachClause_of_forall {p : Float → Prop} {b : Float32 → Prop}
    {clauses : List (Occur × Query)} (h : ∀ clause ∈ clauses, clause.2.Each p b) :
    EachClause p b clauses := by
  induction clauses with
  | nil => trivial
  | cons clause rest ih =>
      obtain ⟨hclause, hrest⟩ := List.forall_mem_cons.mp h
      exact ⟨hclause, ih hrest⟩

theorem Query.readable_boolean {clauses : List (Occur × Query)} (minimum : UInt64) (hd : 2 ≤ d)
    (h : ∀ clause ∈ clauses, clause.2.Readable (d - 2)) :
    (Query.boolean clauses minimum).Readable (d + 2) := by
  have hnesting := nestingOfItems_clauses_le fun clause hclause => (h clause hclause).2
  refine ⟨eachClause_of_forall fun clause hclause => (h clause hclause).1, ?_⟩
  simp only [Query.toJson, nesting, nestingOfMembers]
  omega

end Readable

theorem Query.weightedShape_yields {variant : String} {readQuery : Reader Query} {depth : Nat}
    (hquery : ∀ d, Yields readQuery (d + 1) (Query.Readable (d + 1))) :
    Yields (Query.weightedShape variant readQuery).read depth (fun found =>
      ((∀ q ∈ found.1, q.Readable (depth - 1)) ∧ ∀ b ∈ found.2, True) ∧ 2 ≤ depth) := by
  apply pairShape_yields 2
  · intro d hdepth
    subst hdepth
    exact hquery d
  · exact fun _ _ _ _ _ _ => trivial

/-- The readers of the two fields of a query with a boost hold a query that is readable. -/
theorem weighted_readable {variant : String} {readQuery : Reader Query} {d : Nat}
    (hquery : ∀ d, Yields readQuery (d + 1) (Query.Readable (d + 1))) {scan : Scan}
    (hscan : scan.IsFinite) {found : Option Query × Option Float32} {q : Query} {boost : Float32}
    (hfound : (Query.weightedShape variant readQuery).read (.text (d + 1)) scan = .ok found)
    (hpair : requirePair "query" "boost" found = .ok (q, boost)) :
    q.Readable d := by
  obtain ⟨hfields, _⟩ := Query.weightedShape_yields hquery scan found hscan hfound
  rw [requirePair_eq_ok hpair] at hfields
  exact hfields.1 q rfl

theorem readClause_yields {readQuery : Reader Query} {depth : Nat}
    (hquery : ∀ d, Yields readQuery (d + 1) (Query.Readable (d + 1))) :
    Yields (readClause readQuery) depth (fun clause => clause.2.Readable (depth - 1)) := by
  apply readTagged_yields
  · intro name clause _ h
    cases h
  · intro d name hdepth _ scan clause hscan h
    subst hdepth
    obtain ⟨q, hq, hclause⟩ := bind_eq_ok_iff.mp h
    cases hclause
    exact hquery d scan q hscan hq

/-- The readers of the fields of a term query hold a term that is readable. -/
theorem term_readable {expected : String} {d : Nat} {scan : Scan} (hscan : scan.IsFinite)
    {found : Option String × Option Term} {field : String} {t : Term}
    (hfound : (pairShape expected "field" "term" readString Term.read).read (.text (d + 1)) scan =
      .ok found) (hpair : requirePair "field" "term" found = .ok (field, t)) :
    t.Readable d := by
  have hread : ∀ e, d + 1 = e + 2 → Yields Term.read (e + 1) (Term.Readable d) := by
    intro e he
    obtain rfl : d = e + 1 := by omega
    exact Term.read_yields
  obtain ⟨hfields, _⟩ := pairShape_yields 2 (p := fun _ => True)
    (fun _ _ _ _ _ _ => trivial) hread scan found hscan hfound
  rw [requirePair_eq_ok hpair] at hfields
  exact hfields.2 t rfl

/-- The readers of the fields of a boolean query hold clauses that are readable. -/
theorem clauses_readable {readQuery : Reader Query} {d : Nat}
    (hquery : ∀ d, Yields readQuery (d + 1) (Query.Readable (d + 1))) {scan : Scan}
    (hscan : scan.IsFinite) {found : Option (List (Occur × Query)) × Option UInt64}
    {clauses : List (Occur × Query)}
    (hfound : (Query.booleanShape (readClause readQuery)).read (.text (d + 1)) scan = .ok found)
    (hclauses : found.1 = some clauses) :
    (∀ clause ∈ clauses, clause.2.Readable (d - 2)) ∧ 2 ≤ d := by
  have hread : ∀ e, d + 1 = e + 2 → Yields (readList (readClause readQuery)) (e + 1)
      (fun clauses => (∀ clause ∈ clauses, clause.2.Readable (d - 2)) ∧ 2 ≤ d) := by
    intro e he
    obtain rfl : d = e + 1 := by omega
    apply readList_yields
    intro f hf
    obtain rfl : e = f + 1 := by omega
    exact readClause_yields hquery
  obtain ⟨hfields, _⟩ := pairShape_yields 1 (q := fun _ => True) hread
    (fun _ _ _ _ _ _ => trivial) scan found hscan hfound
  exact hfields.1 clauses hclauses

/-- Whatever text a query is read from, its numbers are finite, and what is written of it nests
less deeply than the text may: by induction on the levels that the reader may go down. -/
theorem Query.readWithin_yields (level depth : Nat) (hdepth : 0 < depth) :
    Yields (Query.readWithin level) depth (Query.Readable depth) := by
  induction level generalizing depth with
  | zero => exact nofun
  | succ level ih =>
      have ih (d : Nat) : Yields (Query.readWithin level) (d + 1) (Query.Readable (d + 1)) :=
        ih (d + 1) (Nat.succ_pos d)
      apply readTagged_yields
      · intro name q _ h
        dsimp only at h
        split at h
        · cases h
          exact ⟨trivial, hdepth⟩
        all_goals cases h
      · intro d name hd _ scan q hscan h
        subst hd
        dsimp only at h
        split at h
        · obtain ⟨_, _, h⟩ := bind_eq_ok_iff.mp h
          cases h
          exact ⟨trivial, hdepth⟩
        · obtain ⟨found, hfound, h⟩ := bind_eq_ok_iff.mp h
          obtain ⟨⟨field, t⟩, hpair, h⟩ := bind_eq_ok_iff.mp h
          cases h
          exact Query.readable_term field (term_readable hscan hfound hpair)
        · obtain ⟨found, hfound, h⟩ := bind_eq_ok_iff.mp h
          obtain ⟨⟨field, s⟩, _, h⟩ := bind_eq_ok_iff.mp h
          cases h
          obtain ⟨_, hinner⟩ := pairShape_yields 2 (p := fun _ => True) (q := fun _ => True)
            (fun _ _ _ _ _ _ => trivial) (fun _ _ _ _ _ _ => trivial) scan found hscan hfound
          exact Query.readable_text field s (by omega)
        · obtain ⟨found, hfound, h⟩ := bind_eq_ok_iff.mp h
          obtain ⟨clauses, hclauses, h⟩ := bind_eq_ok_iff.mp h
          cases h
          obtain ⟨hreadable, hinner⟩ := clauses_readable ih hscan hfound (require_eq_ok hclauses)
          exact Query.readable_boolean _ hinner hreadable
        · obtain ⟨found, hfound, h⟩ := bind_eq_ok_iff.mp h
          obtain ⟨⟨q, boost⟩, hpair, h⟩ := bind_eq_ok_iff.mp h
          cases h
          exact (Query.readable_weighted (weighted_readable ih hscan hfound hpair) boost).1
        · obtain ⟨found, hfound, h⟩ := bind_eq_ok_iff.mp h
          obtain ⟨⟨q, boost⟩, hpair, h⟩ := bind_eq_ok_iff.mp h
          cases h
          exact (Query.readable_weighted (weighted_readable ih hscan hfound hpair) boost).2
        · obtain ⟨r, hr, rfl⟩ := map_eq_ok_iff.mp h
          obtain ⟨⟨hlower, hupper⟩, _⟩ := Range.read_yields scan r hscan hr
          exact Query.readable_range hlower hupper

end Catalogue
