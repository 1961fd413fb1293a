import Catalogue.Proofs.Index.AtLeast
import Mathlib.Data.List.TakeWhile
import Mathlib.Logic.Function.Iterate

/-! # Moving over the documents that enough cursors share

Wherever advancing and seeking have led, every part stands where seeking the current document from
its start would have put it. So nothing but the current document counts, and each move leads to the
first document behind it, or from the target on, that enough parts have. -/

namespace Catalogue

/-! ## Cursors that are sought -/

namespace Cursor

variable {c : Cursor} {first target : Nat}

theorem seek_of_le (h : target ≤ c.doc) : c.seek target = c := by
  obtain ⟨entries, _, _⟩ := c
  cases entries with
  | nil => rfl
  | cons e rest =>
      have he : ¬e.1 < target := Nat.not_lt.mpr h
      simp [seek, he]

theorem seek_advance (h : c.doc < target) : c.advance.seek target = c.seek target := by
  obtain ⟨entries, _, _⟩ := c
  cases entries with
  | nil => rfl
  | cons e rest =>
      have he : e.1 < target := h
      simp [seek, advance, he]

theorem seek_seek (h : first ≤ target) : (c.seek first).seek target = c.seek target := by
  obtain ⟨entries, _, _⟩ := c
  simp only [seek, mk.injEq, and_true]
  induction entries with
  | nil => rfl
  | cons e rest ih =>
      by_cases he : e.1 < first
      · have ht : e.1 < target := by omega
        simp [he, ht, ih]
      · simp [he]

/-- All places behind the last document are one. -/
theorem Ordered.seek_of_noMoreDocs_le (h : c.Ordered) (htarget : noMoreDocs ≤ target) :
    c.seek target = c.seek noMoreDocs := by
  have hall : ∀ t, noMoreDocs ≤ t → c.seek t = { c with entries := [] } := by
    intro t ht
    have hnil : c.entries.dropWhile (fun e => decide (e.1 < t)) = [] := by
      refine List.dropWhile_eq_nil_iff.mpr fun e he => ?_
      have := h.bounded e.1 (List.mem_map_of_mem he)
      exact decide_eq_true (by omega)
    rw [Cursor.seek, hnil]
  rw [hall target htarget, hall noMoreDocs (Nat.le_refl _)]

theorem Ordered.mem_docs_seek (h : c.Ordered) {d : Nat} :
    d ∈ (c.seek target).docs ↔ target ≤ d ∧ d ∈ c.docs := by
  have hinc := h.increasing
  rw [docs_seek]
  generalize c.docs = docs at hinc ⊢
  induction docs with
  | nil => simp
  | cons e rest ih =>
      obtain ⟨hlt, hrest⟩ := List.pairwise_cons.mp hinc
      by_cases he : e < target
      · rw [List.dropWhile_cons_of_pos (by simpa using he), List.mem_cons]
        refine (ih hrest).trans ⟨?_, ?_⟩
        · rintro ⟨hle, hmem⟩
          exact ⟨hle, .inr hmem⟩
        · rintro ⟨hle, rfl | hmem⟩
          · omega
          · exact ⟨hle, hmem⟩
      · rw [List.dropWhile_cons_of_neg (by simpa using he), List.mem_cons]
        constructor
        · rintro (rfl | hmem)
          · exact ⟨by omega, .inl rfl⟩
          · have := hlt d hmem
            exact ⟨by omega, .inr hmem⟩
        · exact fun hd => hd.2

theorem Ordered.le_doc_seek (h : c.Ordered) (htarget : target ≤ noMoreDocs) :
    target ≤ (c.seek target).doc := by
  by_cases hdoc : (c.seek target).doc = noMoreDocs
  · rw [hdoc]
    exact htarget
  · exact (h.mem_docs_seek.mp (doc_mem hdoc)).1

theorem Ordered.seek_seek_noMoreDocs (h : c.Ordered) (first : Nat) :
    (c.seek first).seek noMoreDocs = c.seek noMoreDocs := by
  rcases Nat.le_total first noMoreDocs with hle | hle
  · exact seek_seek hle
  · rw [h.seek_of_noMoreDocs_le hle, seek_seek (Nat.le_refl _)]

theorem Ordered.doc_lt_advance (h : c.Ordered) (hdoc : c.doc ≠ noMoreDocs) :
    c.doc < c.advance.doc := by
  by_cases hnext : c.advance.doc = noMoreDocs
  · have := h.bounded c.doc (doc_mem hdoc)
    omega
  · obtain ⟨hmem, hne⟩ := h.mem_advance.mp (doc_mem hnext)
    have := h.doc_le hmem
    omega

end Cursor

namespace AtLeast

/-! ## Where aligning leaves the parts -/

/-- The rounds of aligning: parts that stand on a document too few share are moved past it, so many
times. -/
inductive Aligns (minimum : Nat) : List Cursor → Nat → List Cursor × Nat → Prop where
  | behind {parts} : lowest parts = noMoreDocs → Aligns minimum parts 0 (parts, noMoreDocs)
  | shared {parts} : lowest parts ≠ noMoreDocs → minimum ≤ countOn (lowest parts) parts →
      Aligns minimum parts 0 (parts, lowest parts)
  | rejected {parts rounds result} : lowest parts ≠ noMoreDocs →
      countOn (lowest parts) parts < minimum →
      Aligns minimum (stepOff (lowest parts) parts) rounds result →
      Aligns minimum parts (rounds + 1) result

/-- Aligning ends, after no more rounds than the parts have documents. -/
theorem align_rounds (minimum : Nat) (parts : List Cursor) :
    ∃ rounds ≤ remaining parts, Aligns minimum parts rounds (align minimum parts) := by
  fun_induction align minimum parts with
  | case1 parts hlow => exact ⟨0, Nat.zero_le _, .behind hlow⟩
  | case2 parts hlow henough => exact ⟨0, Nat.zero_le _, .shared hlow henough⟩
  | case3 parts hlow hfew ih =>
      obtain ⟨rounds, hrounds, haligns⟩ := ih
      have hlt := remaining_stepOff_lt hlow (exists_of_lowest_ne hlow)
      exact ⟨rounds + 1, by omega, .rejected hlow (Nat.lt_of_not_le hfew) haligns⟩

section

variable {parts : List Cursor} {minimum : Nat}

theorem lt_lowest {doc : Nat} (hdoc : doc < noMoreDocs) (h : ∀ p ∈ parts, doc < p.doc) :
    doc < lowest parts := by
  induction parts with
  | nil => exact hdoc
  | cons p rest ih =>
      have hp := h p List.mem_cons_self
      have hrest := ih fun q hq => h q (List.mem_cons_of_mem p hq)
      simp only [lowest, List.foldr_cons] at hrest ⊢
      omega

theorem lowest_le_noMoreDocs (parts : List Cursor) : lowest parts ≤ noMoreDocs := by
  induction parts with
  | nil => exact Nat.le_refl _
  | cons p rest ih =>
      simp only [lowest, List.foldr_cons] at ih ⊢
      omega

theorem lowest_lt_stepOff (ordered : ∀ p ∈ parts, p.Ordered) (hlow : lowest parts ≠ noMoreDocs) :
    lowest parts < lowest (stepOff (lowest parts) parts) := by
  refine lt_lowest (by have := lowest_le_noMoreDocs parts; omega) fun q hq => ?_
  obtain ⟨p, hp, rfl⟩ := List.mem_map.mp hq
  have hle : lowest parts ≤ p.doc := lowest_le hp
  split
  · rename_i hdoc
    rw [← hdoc]
    exact (ordered p hp).doc_lt_advance (hdoc ▸ hlow)
  · omega

theorem lowest_le_align (minimum : Nat) (ordered : ∀ p ∈ parts, p.Ordered) :
    lowest parts ≤ (align minimum parts).2 ∧ (align minimum parts).2 ≤ noMoreDocs := by
  fun_induction align minimum parts with
  | case1 parts hlow => exact ⟨Nat.le_of_eq hlow, Nat.le_refl _⟩
  | case2 parts _ _ => exact ⟨Nat.le_refl _, lowest_le_noMoreDocs parts⟩
  | case3 parts hlow _ ih =>
      have hlt := lowest_lt_stepOff ordered hlow
      obtain ⟨hle, hbound⟩ := ih (stepOff_ordered ordered)
      exact ⟨by omega, hbound⟩

theorem map_seek_of_le {doc : Nat} (h : doc ≤ lowest parts) : parts.map (·.seek doc) = parts := by
  have hseek : ∀ p ∈ parts, p.seek doc = id p := fun p hp =>
    Cursor.seek_of_le (Nat.le_trans h (lowest_le hp))
  rw [List.map_congr_left hseek, List.map_id]

/-- Aligning puts every part where seeking the document would. -/
theorem align_parts (minimum : Nat) (ordered : ∀ p ∈ parts, p.Ordered) :
    (align minimum parts).1 = parts.map (·.seek (align minimum parts).2) := by
  fun_induction align minimum parts with
  | case1 parts hlow => exact (map_seek_of_le (Nat.le_of_eq hlow.symm)).symm
  | case2 parts _ _ => exact (map_seek_of_le (Nat.le_refl _)).symm
  | case3 parts hlow _ ih =>
      have hlt := lowest_lt_stepOff ordered hlow
      have hordered : ∀ p ∈ stepOff (lowest parts) parts, p.Ordered := stepOff_ordered ordered
      have hle := (lowest_le_align minimum hordered).1
      have hstep : ∀ p ∈ parts, ∀ doc, lowest parts < doc →
          (if p.doc = lowest parts then p.advance else p).seek doc = p.seek doc := by
        intro p _ doc hdoc
        split
        · exact Cursor.seek_advance (by omega)
        · rfl
      refine (ih hordered).trans (List.map_map.trans ?_)
      exact List.map_congr_left fun p hp => hstep p hp _ (by omega)

/-! ## Where a cursor stands -/

/-- The first document from a place on that enough parts have, or the place behind all documents if
there is none. -/
inductive Lands (minimum : Nat) (parts : List Cursor) (start : Nat) : Nat → Prop where
  | on {doc} : start ≤ doc → minimum ≤ sharing doc parts →
      (∀ e, start ≤ e → minimum ≤ sharing e parts → doc ≤ e) → Lands minimum parts start doc
  | behind : (∀ e, start ≤ e → ¬minimum ≤ sharing e parts) → Lands minimum parts start noMoreDocs

theorem Lands.unique {start doc other : Nat} (h : Lands minimum parts start doc)
    (h' : Lands minimum parts start other) : doc = other := by
  cases h with
  | on hstart henough hfirst =>
      cases h' with
      | on hstart' henough' hfirst' =>
          exact Nat.le_antisymm (hfirst other hstart' henough') (hfirst' doc hstart henough)
      | behind hnone => exact absurd henough (hnone doc hstart)
  | behind hnone =>
      cases h' with
      | on hstart' henough' _ => exact absurd henough' (hnone other hstart')
      | behind _ => rfl

theorem Lands.start_le {start doc : Nat} (h : Lands minimum parts start doc) :
    start ≤ doc ∨ doc = noMoreDocs := by
  cases h with
  | on hstart _ _ => exact .inl hstart
  | behind _ => exact .inr rfl

theorem Lands.from_later {start doc later : Nat} (h : Lands minimum parts start doc)
    (hlater : start ≤ later) (hdoc : later ≤ doc) : Lands minimum parts later doc := by
  cases h with
  | on _ henough hfirst => exact .on hdoc henough fun e he => hfirst e (Nat.le_trans hlater he)
  | behind hnone => exact .behind fun e he => hnone e (Nat.le_trans hlater he)

/-- A place that moves over parts lead to: each part is where seeking it puts that part. -/
structure Placed (minimum : Nat) (parts : List Cursor) (a : AtLeast) : Prop where
  minimum_eq : a.minimum = minimum
  parts_eq : a.parts = parts.map (·.seek a.doc)
  bounded : a.doc ≤ noMoreDocs

theorem Placed.eq_of_doc {a b : AtLeast} (ha : Placed minimum parts a)
    (hb : Placed minimum parts b) (h : a.doc = b.doc) : a = b := by
  have hparts := ha.parts_eq.trans ((congrArg (fun d => parts.map (·.seek d)) h).trans
    hb.parts_eq.symm)
  have hminimum := ha.minimum_eq.trans hb.minimum_eq.symm
  cases a
  cases b
  simp_all

section

variable (ordered : ∀ p ∈ parts, p.Ordered)
include ordered

theorem seek_ordered (target : Nat) : ∀ p ∈ parts.map (·.seek target), p.Ordered := by
  intro p hp
  obtain ⟨q, hq, rfl⟩ := List.mem_map.mp hp
  exact (ordered q hq).seek target

theorem sharing_seek (target e : Nat) :
    sharing e (parts.map (·.seek target)) = if target ≤ e then sharing e parts else 0 := by
  have hmem : ∀ p ∈ parts, (e ∈ (p.seek target).docs ↔ target ≤ e ∧ e ∈ p.docs) :=
    fun p hp => (ordered p hp).mem_docs_seek
  rw [sharing, List.countP_map]
  split
  · rename_i hle
    refine List.countP_congr fun p hp => ?_
    simp only [Function.comp_apply, decide_eq_true_eq, hmem p hp, hle, true_and]
  · rename_i hle
    refine List.countP_eq_zero.mpr fun p hp hshared => ?_
    exact hle ((hmem p hp).mp (of_decide_eq_true hshared)).1

theorem sharing_eq_zero_of_le {e : Nat} (h : noMoreDocs ≤ e) : sharing e parts = 0 := by
  refine List.countP_eq_zero.mpr fun p hp hmem => ?_
  have := (ordered p hp).bounded e (of_decide_eq_true hmem)
  omega

/-- Aligning parts that were sought leads to the first document from the target on. -/
theorem aligned_seek (hmin : 1 ≤ minimum) (target : Nat) :
    Placed minimum parts (aligned minimum (parts.map (·.seek target))) ∧
      Lands minimum parts target (aligned minimum (parts.map (·.seek target))).doc := by
  have hordered := seek_ordered ordered target
  obtain ⟨hstop, hsame⟩ := align_stop hmin hordered
  have hparts := align_parts minimum hordered
  have hbounded := (lowest_le_align minimum hordered).2
  have hshared : ∀ e, minimum ≤ sharing e (align minimum (parts.map (·.seek target))).1 ↔
      target ≤ e ∧ minimum ≤ sharing e parts := by
    intro e
    rw [hsame e, sharing_seek ordered]
    split <;> simp_all
    omega
  change Placed minimum parts ⟨minimum, (align minimum (parts.map (·.seek target))).1,
    (align minimum (parts.map (·.seek target))).2⟩ ∧
      Lands minimum parts target (align minimum (parts.map (·.seek target))).2
  generalize align minimum (parts.map (·.seek target)) = result at *
  obtain ⟨ps, doc⟩ := result
  by_cases hdoc : doc = noMoreDocs
  · subst hdoc
    refine ⟨⟨rfl, ?_, hbounded⟩, .behind fun e he henough => ?_⟩
    · rw [hparts, List.map_map]
      exact List.map_congr_left fun p hp => (ordered p hp).seek_seek_noMoreDocs target
    · have := (hshared e).mpr ⟨he, henough⟩
      rw [hstop.sharing_eq_zero] at this
      omega
  · obtain ⟨htarget, henough⟩ := (hshared doc).mp (hstop.enough hdoc)
    refine ⟨⟨rfl, ?_, hbounded⟩, .on htarget henough fun e he hshare => ?_⟩
    · rw [hparts, List.map_map]
      exact List.map_congr_left fun p _ => Cursor.seek_seek htarget
    · have := (hshared e).mpr ⟨he, hshare⟩
      exact hstop.le_of_sharing_pos (by omega)

/-! ## Single moves -/

variable {a : AtLeast}

theorem aligned_lands (hmin : 1 ≤ minimum) :
    Placed minimum parts (aligned minimum parts) ∧
      Lands minimum parts 0 (aligned minimum parts).doc := by
  have h := aligned_seek ordered hmin 0
  rwa [map_seek_of_le (Nat.zero_le _)] at h

theorem stepOff_seek {doc : Nat} (hdoc : doc < noMoreDocs) :
    stepOff doc (parts.map (·.seek doc)) = parts.map (·.seek (doc + 1)) := by
  rw [stepOff, List.map_map]
  refine List.map_congr_left fun p hp => ?_
  have hq := (ordered p hp).seek doc
  have hle : doc ≤ (p.seek doc).doc := (ordered p hp).le_doc_seek (by omega)
  have hlater : p.seek (doc + 1) = (p.seek doc).seek (doc + 1) :=
    (Cursor.seek_seek (Nat.le_succ doc)).symm
  rw [Function.comp_apply, hlater]
  generalize p.seek doc = q at *
  split
  · have hnext := hq.doc_lt_advance (by omega)
    rw [← Cursor.seek_advance (c := q) (by omega), Cursor.seek_of_le (by omega)]
  · exact (Cursor.seek_of_le (by omega)).symm

/-- Advancing leads to the next document that enough parts have. -/
theorem Placed.advance (h : Placed minimum parts a) (hmin : 1 ≤ minimum) :
    Placed minimum parts a.advance ∧ Lands minimum parts (a.doc + 1) a.advance.doc := by
  have hbounded := h.bounded
  by_cases hdoc : a.doc = noMoreDocs
  · have hstays : a.advance = a := if_pos hdoc
    rw [hstays]
    refine ⟨h, ?_⟩
    rw [hdoc]
    refine .behind fun e he => ?_
    rw [sharing_eq_zero_of_le ordered (by omega)]
    omega
  · have hadvance : a.advance = aligned minimum (parts.map (·.seek (a.doc + 1))) := by
      rw [← stepOff_seek ordered (by omega), ← h.parts_eq, ← h.minimum_eq]
      exact if_neg hdoc
    rw [hadvance]
    exact aligned_seek ordered hmin (a.doc + 1)

/-- Seeking ahead leads to the first document from the target on that enough parts have. -/
theorem Placed.seek (h : Placed minimum parts a) (hmin : 1 ≤ minimum) {target : Nat}
    (htarget : a.doc < target) :
    Placed minimum parts (a.seek target) ∧ Lands minimum parts target (a.seek target).doc := by
  have hparts : (a.parts.map fun p => if p.doc < target then p.seek target else p) =
      parts.map (·.seek target) := by
    rw [h.parts_eq, List.map_map]
    refine List.map_congr_left fun p _ => ?_
    have hlater : p.seek target = (p.seek a.doc).seek target :=
      (Cursor.seek_seek (Nat.le_of_lt htarget)).symm
    rw [Function.comp_apply, hlater]
    split
    · rfl
    · exact (Cursor.seek_of_le (by omega)).symm
  have hseek : a.seek target = aligned minimum (parts.map (·.seek target)) := by
    rw [← hparts, ← h.minimum_eq]
    exact if_neg (by omega)
  rw [hseek]
  exact aligned_seek ordered hmin target

/-- Seeking leads where advancing does that stops at the target. -/
theorem Placed.seek_eq_iterate (h : Placed minimum parts a) (hmin : 1 ≤ minimum) (target : Nat) :
    ∃ steps, a.seek target = AtLeast.advance^[steps] a ∧
      ∀ k < steps, (AtLeast.advance^[k] a).doc < target := by
  -- Every advance leaves fewer places to go, up to the one behind all documents.
  induction hleft : noMoreDocs - a.doc using Nat.strong_induction_on generalizing a with
  | _ left ih =>
      have hbounded := h.bounded
      by_cases hreached : target ≤ a.doc
      · exact ⟨0, if_pos hreached, fun k hk => absurd hk (Nat.not_lt_zero k)⟩
      · have hahead : a.doc < target := by omega
        obtain ⟨hsought, hlands⟩ := h.seek ordered hmin hahead
        obtain ⟨hplaced, hnext⟩ := h.advance ordered hmin
        by_cases hend : a.doc = noMoreDocs
        · have hnone : Lands minimum parts target noMoreDocs := .behind fun e he => by
            rw [sharing_eq_zero_of_le ordered (by omega)]
            omega
          have hstays := hsought.eq_of_doc h ((hlands.unique hnone).trans hend.symm)
          exact ⟨0, hstays, fun k hk => absurd hk (Nat.not_lt_zero k)⟩
        · have hgrows : a.doc < a.advance.doc := by
            rcases hnext.start_le with hle | hle <;> omega
          have hsame : a.seek target = a.advance.seek target := by
            by_cases hover : target ≤ a.advance.doc
            · have hlater := hnext.from_later (by omega) hover
              rw [show a.advance.seek target = a.advance from if_pos hover]
              exact hsought.eq_of_doc hplaced (hlands.unique hlater)
            · obtain ⟨hsought', hlands'⟩ := hplaced.seek ordered hmin (Nat.lt_of_not_le hover)
              exact hsought.eq_of_doc hsought' (hlands.unique hlands')
          obtain ⟨steps, hsteps, hbelow⟩ := ih (noMoreDocs - a.advance.doc) (by omega) hplaced rfl
          refine ⟨steps + 1, hsame.trans hsteps, fun k hk => ?_⟩
          cases k with
          | zero => exact hahead
          | succ k => exact hbelow k (by omega)

end

end

/-! ## Any moves -/

inductive Move where
  | advance
  | seek (target : Nat)

def move (a : AtLeast) : Move → AtLeast
  | .advance => a.advance
  | .seek target => a.seek target

def moves (a : AtLeast) (ms : List Move) : AtLeast := ms.foldl move a

/-- A move leads to a document that enough parts have, or behind all documents, or nowhere. -/
theorem Placed.move {parts : List Cursor} {minimum : Nat} (ordered : ∀ p ∈ parts, p.Ordered)
    (hmin : 1 ≤ minimum) {a : AtLeast} (h : Placed minimum parts a) (m : Move) :
    Placed minimum parts (a.move m) ∧
      (a.move m = a ∨ ∃ start, Lands minimum parts start (a.move m).doc) := by
  cases m with
  | advance =>
      obtain ⟨hplaced, hlands⟩ := h.advance ordered hmin
      exact ⟨hplaced, .inr ⟨_, hlands⟩⟩
  | seek target =>
      by_cases htarget : target ≤ a.doc
      · have hstays : a.move (.seek target) = a := if_pos htarget
        rw [hstays]
        exact ⟨h, .inl rfl⟩
      · obtain ⟨hplaced, hlands⟩ := h.seek ordered hmin (Nat.lt_of_not_le htarget)
        exact ⟨hplaced, .inr ⟨_, hlands⟩⟩

theorem Placed.after {parts : List Cursor} {minimum : Nat} (ordered : ∀ p ∈ parts, p.Ordered)
    (hmin : 1 ≤ minimum) {a : AtLeast} (h : Placed minimum parts a) (ms : List Move) :
    Placed minimum parts (a.moves ms) := by
  induction ms generalizing a with
  | nil => exact h
  | cons m rest ih => exact ih (h.move ordered hmin m).1

/-- Advancing leads to the next document that enough parts have. Seeking stays where it is at or
behind the target, and else leads to the first such document from the target on, where advancing up
to the target leads as well. Behind all documents no move leads anywhere. -/
structure MovesExactly (minimum : Nat) (parts : List Cursor) (a : AtLeast) : Prop where
  advances : Lands minimum parts (a.doc + 1) a.advance.doc
  stays : ∀ target, target ≤ a.doc → a.seek target = a
  seeks : ∀ target, a.doc < target → Lands minimum parts target (a.seek target).doc
  seeks_by_advancing : ∀ target, ∃ steps, a.seek target = AtLeast.advance^[steps] a ∧
    ∀ k < steps, (AtLeast.advance^[k] a).doc < target
  ends : a.doc = noMoreDocs → ∀ ms, a.moves ms = a

theorem Placed.movesExactly {parts : List Cursor} {minimum : Nat}
    (ordered : ∀ p ∈ parts, p.Ordered) (hmin : 1 ≤ minimum) {a : AtLeast}
    (h : Placed minimum parts a) : MovesExactly minimum parts a where
  advances := (h.advance ordered hmin).2
  stays _ htarget := if_pos htarget
  seeks _ htarget := (h.seek ordered hmin htarget).2
  seeks_by_advancing := h.seek_eq_iterate ordered hmin
  ends hend ms := by
    induction ms with
    | nil => rfl
    | cons m rest ih =>
        have hstays : a.move m = a := by
          cases m with
          | advance => exact if_pos hend
          | seek target =>
              obtain ⟨steps, hsteps, _⟩ := h.seek_eq_iterate ordered hmin target
              have hfixed : a.advance = a := if_pos hend
              exact hsteps.trans (Function.iterate_fixed hfixed steps)
        have hrest : a.moves (m :: rest) = (a.move m).moves rest := rfl
        rw [hrest, hstays, ih]

end AtLeast

/-- A cursor over what enough parts share starts on the first such document and moves exactly,
whatever moves were made before. Every alignment on the way ends after as many rounds as its parts
have documents, or fewer. -/
theorem AtLeast.moves_exactly {parts : List Cursor} (ordered : ∀ p ∈ parts, p.Ordered)
    {minimum : Nat} (hmin : 1 ≤ minimum) :
    Lands minimum parts 0 (aligned minimum parts).doc ∧
    (∀ ms, MovesExactly minimum parts ((aligned minimum parts).moves ms)) ∧
    ∀ any, ∃ rounds ≤ remaining any, Aligns minimum any rounds (align minimum any) := by
  obtain ⟨hplaced, hlands⟩ := aligned_lands ordered hmin
  refine ⟨hlands, fun ms => ?_, align_rounds minimum⟩
  exact (hplaced.after ordered hmin ms).movesExactly ordered hmin

def AtLeast.threeParts : List Cursor :=
  [.ofDocs [1, 4, 9] 1.0, .ofDocs [2, 9] 1.0, .ofDocs [4, 7, 9, 12] 1.0]

theorem AtLeast.moves_of_threeParts :
    (aligned 2 threeParts).doc = 4 ∧
    (∀ ms, MovesExactly 2 threeParts ((aligned 2 threeParts).moves ms)) ∧
    ∀ any, ∃ rounds ≤ remaining any, Aligns 2 any rounds (align 2 any) := by
  have ordered : ∀ p ∈ threeParts, p.Ordered := by
    have hordered : ∀ p ∈ threeParts,
        p.docs.Pairwise (· < ·) ∧ ∀ d ∈ p.docs, d < noMoreDocs := by decide
    exact fun p hp => ⟨(hordered p hp).1, (hordered p hp).2⟩
  have hmin : 1 ≤ 2 := by decide
  obtain ⟨hlands, hmoves⟩ := moves_exactly ordered hmin
  have hfirst : ∀ e < 4, ¬2 ≤ sharing e threeParts := by decide
  refine ⟨hlands.unique (.on (Nat.zero_le 4) (by decide) fun e _ henough => ?_), hmoves⟩
  exact Nat.le_of_not_lt fun hlt => hfirst e hlt henough

end Catalogue
