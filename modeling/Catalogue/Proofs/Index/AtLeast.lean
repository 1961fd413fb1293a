import Catalogue.Index.AtLeast

/-! # The documents that enough cursors share

Aligning drops only documents that too few parts have. So at every stop the documents still to
come that enough parts have are the same as before, and a walk meets each of them once, in
increasing order. -/

namespace Catalogue

namespace Cursor

theorem Ordered.advance {c : Cursor} (h : c.Ordered) : c.advance.Ordered := by
  constructor
  · rw [docs_advance]
    exact h.increasing.tail
  · intro d hd
    rw [docs_advance] at hd
    exact h.bounded d (List.mem_of_mem_tail hd)

theorem Ordered.seek {c : Cursor} (h : c.Ordered) (target : Nat) : (c.seek target).Ordered := by
  have hsublist : (c.seek target).docs.Sublist c.docs := by
    rw [docs_seek]
    exact List.dropWhile_sublist _
  exact ⟨h.increasing.sublist hsublist, fun d hd => h.bounded d (hsublist.subset hd)⟩

theorem doc_eq_head {c : Cursor} {d : Nat} {rest : List Nat} (h : c.docs = d :: rest) :
    c.doc = d := by
  obtain ⟨entries, _, _⟩ := c
  cases entries with
  | nil => cases h
  | cons e es => exact (List.cons.inj h).1

theorem doc_eq_noMoreDocs {c : Cursor} (h : c.docs = []) : c.doc = noMoreDocs := by
  obtain ⟨entries, _, _⟩ := c
  cases entries with
  | nil => rfl
  | cons e es => cases h

/-- A cursor stands on its first document. -/
theorem Ordered.doc_le {c : Cursor} (h : c.Ordered) {d : Nat} (hd : d ∈ c.docs) : c.doc ≤ d := by
  have hinc := h.increasing
  cases hdocs : c.docs with
  | nil =>
      rw [hdocs] at hd
      cases hd
  | cons e rest =>
      rw [hdocs] at hd hinc
      rw [doc_eq_head hdocs]
      rcases List.mem_cons.mp hd with rfl | hd
      · exact Nat.le_refl _
      · exact Nat.le_of_lt ((List.pairwise_cons.mp hinc).1 d hd)

theorem doc_mem {c : Cursor} (h : c.doc ≠ noMoreDocs) : c.doc ∈ c.docs := by
  cases hdocs : c.docs with
  | nil => exact absurd (doc_eq_noMoreDocs hdocs) h
  | cons e rest =>
      rw [doc_eq_head hdocs]
      exact List.mem_cons_self

/-- What a cursor has to come after its current document. -/
theorem Ordered.mem_advance {c : Cursor} (h : c.Ordered) {d : Nat} :
    d ∈ c.advance.docs ↔ d ∈ c.docs ∧ d ≠ c.doc := by
  have hinc := h.increasing
  rw [docs_advance]
  cases hdocs : c.docs with
  | nil => simp
  | cons e rest =>
      rw [hdocs] at hinc
      rw [doc_eq_head hdocs, List.tail_cons, List.mem_cons]
      constructor
      · intro hd
        have hlt := (List.pairwise_cons.mp hinc).1 d hd
        exact ⟨.inr hd, by omega⟩
      · rintro ⟨rfl | hd, hne⟩
        · exact absurd rfl hne
        · exact hd

end Cursor

namespace AtLeast

/-- How many parts have a document still to come. -/
def sharing (doc : Nat) (parts : List Cursor) : Nat := parts.countP fun p => doc ∈ p.docs

variable {parts : List Cursor} {doc e : Nat}

theorem lowest_le {p : Cursor} (h : p ∈ parts) : lowest parts ≤ p.doc := by
  induction parts with
  | nil => cases h
  | cons q rest ih =>
      simp only [lowest, List.foldr_cons] at ih ⊢
      rcases List.mem_cons.mp h with rfl | h
      · exact Nat.min_le_left _ _
      · exact Nat.le_trans (Nat.min_le_right _ _) (ih h)

theorem exists_of_sharing_pos (h : 0 < sharing e parts) : ∃ p ∈ parts, e ∈ p.docs := by
  obtain ⟨p, hp, he⟩ := List.countP_pos_iff.mp h
  exact ⟨p, hp, of_decide_eq_true he⟩

/-- Where all parts stand at or after a document, those that have it stand on it. -/
theorem countOn_eq_sharing (ordered : ∀ p ∈ parts, p.Ordered) (least : ∀ p ∈ parts, doc ≤ p.doc)
    (hdoc : doc ≠ noMoreDocs) : countOn doc parts = sharing doc parts := by
  refine List.countP_congr fun p hp => ?_
  rw [decide_eq_true_iff, decide_eq_true_iff]
  constructor
  · rintro rfl
    exact Cursor.doc_mem hdoc
  · intro hmem
    exact Nat.le_antisymm ((ordered p hp).doc_le hmem) (least p hp)

/-- Stepping off a document takes it, and no other, from what is still to come. -/
theorem sharing_stepOff (ordered : ∀ p ∈ parts, p.Ordered) (least : ∀ p ∈ parts, doc ≤ p.doc) :
    sharing e (stepOff doc parts) = if e = doc then 0 else sharing e parts := by
  have hpart : ∀ p ∈ parts,
      (e ∈ (if p.doc = doc then p.advance else p).docs ↔ e ∈ p.docs ∧ e ≠ doc) := by
    intro p hp
    by_cases hd : p.doc = doc
    · rw [if_pos hd, (ordered p hp).mem_advance, hd]
    · rw [if_neg hd]
      refine ⟨fun hmem => ⟨hmem, ?_⟩, fun h => h.1⟩
      have hle := (ordered p hp).doc_le hmem
      have hge := least p hp
      omega
  unfold sharing stepOff
  rw [List.countP_map]
  split
  · rename_i he
    refine List.countP_eq_zero.mpr fun p hp hmem => ?_
    exact ((hpart p hp).mp (of_decide_eq_true hmem)).2 he
  · rename_i he
    refine List.countP_congr fun p hp => ?_
    simp only [Function.comp_apply, decide_eq_true_eq, hpart p hp, ne_eq, he, not_false_iff,
      and_true]

theorem stepOff_ordered (ordered : ∀ p ∈ parts, p.Ordered) :
    ∀ p ∈ stepOff doc parts, p.Ordered := by
  intro p hp
  obtain ⟨q, hq, rfl⟩ := List.mem_map.mp hp
  split
  · exact (ordered q hq).advance
  · exact ordered q hq

/-- A stop: no part has a document before it, and enough parts have it, unless there are no more. -/
structure Stop (minimum : Nat) (parts : List Cursor) (doc : Nat) : Prop where
  ordered : ∀ p ∈ parts, p.Ordered
  least : ∀ p ∈ parts, doc ≤ p.doc
  enough : doc ≠ noMoreDocs → minimum ≤ sharing doc parts

/-- Aligning comes to a stop without loss: what enough parts have still to come stays. -/
theorem align_stop {minimum : Nat} (hmin : 1 ≤ minimum) (ordered : ∀ p ∈ parts, p.Ordered) :
    Stop minimum (align minimum parts).1 (align minimum parts).2 ∧
      ∀ e, minimum ≤ sharing e (align minimum parts).1 ↔ minimum ≤ sharing e parts := by
  fun_induction align minimum parts with
  | case1 parts hlow =>
      refine ⟨⟨ordered, fun p hp => ?_, fun h => absurd rfl h⟩, fun _ => Iff.rfl⟩
      exact hlow ▸ lowest_le hp
  | case2 parts hlow henough =>
      have least : ∀ p ∈ parts, lowest parts ≤ p.doc := fun p hp => lowest_le hp
      refine ⟨⟨ordered, least, fun _ => ?_⟩, fun _ => Iff.rfl⟩
      rw [← countOn_eq_sharing ordered least hlow]
      exact henough
  | case3 parts hlow hfew ih =>
      have least : ∀ p ∈ parts, lowest parts ≤ p.doc := fun p hp => lowest_le hp
      obtain ⟨hstop, hsame⟩ := ih (stepOff_ordered ordered)
      refine ⟨hstop, fun e => (hsame e).trans ?_⟩
      rw [sharing_stepOff ordered least]
      split
      · rename_i he
        rw [he, ← countOn_eq_sharing ordered least hlow]
        omega
      · exact Iff.rfl

theorem remaining_align_le (minimum : Nat) (parts : List Cursor) :
    remaining (align minimum parts).1 ≤ remaining parts := by
  fun_induction align minimum parts with
  | case1 => exact Nat.le_refl _
  | case2 => exact Nat.le_refl _
  | case3 parts _ _ ih => exact Nat.le_trans ih (remaining_stepOff_le _ _)

theorem sharing_eq_zero_of_remaining (h : remaining parts = 0) : sharing e parts = 0 := by
  refine List.countP_eq_zero.mpr fun p hp hmem => ?_
  have hentries : p.entries = [] :=
    List.flatMap_eq_nil_iff.mp (List.length_eq_zero_iff.mp h) p hp
  have hnil : p.docs = [] := by
    rw [Cursor.docs, hentries, List.map_nil]
  rw [hnil] at hmem
  cases of_decide_eq_true hmem

/-! ## A walk from stop to stop -/

section

variable {minimum : Nat}

/-- At a stop behind all documents no part has any. -/
theorem Stop.sharing_eq_zero (h : Stop minimum parts noMoreDocs) : sharing e parts = 0 := by
  refine List.countP_eq_zero.mpr fun p hp hmem => ?_
  have hbounded := (h.ordered p hp).bounded e (of_decide_eq_true hmem)
  have hle := (h.ordered p hp).doc_le (of_decide_eq_true hmem)
  have hge := h.least p hp
  omega

/-- A document that a part has lies at or after the stop. -/
theorem Stop.le_of_sharing_pos (h : Stop minimum parts doc) (he : 0 < sharing e parts) :
    doc ≤ e := by
  obtain ⟨p, hp, hmem⟩ := exists_of_sharing_pos he
  exact Nat.le_trans (h.least p hp) ((h.ordered p hp).doc_le hmem)

/-- At a stop that enough parts have, some part stands on it. -/
theorem Stop.exists_on (h : Stop minimum parts doc) (hmin : 1 ≤ minimum)
    (hdoc : doc ≠ noMoreDocs) : ∃ p ∈ parts, p.doc = doc := by
  obtain ⟨p, hp, hmem⟩ := exists_of_sharing_pos (Nat.lt_of_lt_of_le hmin (h.enough hdoc))
  exact ⟨p, hp, Nat.le_antisymm ((h.ordered p hp).doc_le hmem) (h.least p hp)⟩

/-- A stop comes before everything else that enough parts have. -/
theorem Stop.cons_spec (h : Stop minimum parts doc) (hmin : 1 ≤ minimum) (hdoc : doc ≠ noMoreDocs)
    {rest : List Nat} (increasing : rest.Pairwise (· < ·))
    (exact : ∀ e, e ∈ rest ↔ e ≠ doc ∧ minimum ≤ sharing e parts) :
    (doc :: rest).Pairwise (· < ·) ∧ ∀ e, e ∈ doc :: rest ↔ minimum ≤ sharing e parts := by
  constructor
  · refine List.pairwise_cons.mpr ⟨fun e he => ?_, increasing⟩
    obtain ⟨hne, hshared⟩ := (exact e).mp he
    have hle := h.le_of_sharing_pos (Nat.lt_of_lt_of_le hmin hshared)
    omega
  · intro e
    rw [List.mem_cons, exact e]
    constructor
    · rintro (rfl | ⟨_, hshared⟩)
      · exact h.enough hdoc
      · exact hshared
    · intro hshared
      by_cases he : e = doc
      · exact .inl he
      · exact .inr ⟨he, hshared⟩

end

/-- Advancing leads to a stop, uses up a match, and loses the current document and no other. -/
theorem advance_stop {a : AtLeast} (hmin : 1 ≤ a.minimum) (h : Stop a.minimum a.parts a.doc)
    (hdoc : a.doc ≠ noMoreDocs) :
    a.advance.minimum = a.minimum ∧ Stop a.minimum a.advance.parts a.advance.doc ∧
      remaining a.advance.parts < remaining a.parts ∧
      ∀ e, a.minimum ≤ sharing e a.advance.parts ↔
        e ≠ a.doc ∧ a.minimum ≤ sharing e a.parts := by
  have hadvance : a.advance = aligned a.minimum (stepOff a.doc a.parts) := if_neg hdoc
  have hordered : ∀ p ∈ stepOff a.doc a.parts, p.Ordered := stepOff_ordered h.ordered
  obtain ⟨hstop, hsame⟩ := align_stop hmin hordered
  have hlt := remaining_stepOff_lt hdoc (h.exists_on hmin hdoc)
  have hle := remaining_align_le a.minimum (stepOff a.doc a.parts)
  rw [hadvance]
  refine ⟨rfl, hstop, Nat.lt_of_le_of_lt hle hlt, fun e => (hsame e).trans ?_⟩
  rw [sharing_stepOff h.ordered h.least]
  by_cases he : e = a.doc
  · rw [if_pos he]
    omega
  · rw [if_neg he]
    exact ⟨fun hshared => ⟨he, hshared⟩, fun hshared => hshared.2⟩

def walked (a : AtLeast) (steps : Nat) : List Nat := (a.walk steps).map Prod.fst

/-- A walk that is long enough meets what enough parts have, in increasing order. -/
theorem walked_spec {a : AtLeast} (hmin : 1 ≤ a.minimum) (hstop : Stop a.minimum a.parts a.doc)
    {steps : Nat} (hsteps : remaining a.parts ≤ steps) :
    (a.walked steps).Pairwise (· < ·) ∧
      ∀ e, e ∈ a.walked steps ↔ a.minimum ≤ sharing e a.parts := by
  induction steps generalizing a with
  | zero =>
      refine ⟨.nil, fun e => ?_⟩
      rw [sharing_eq_zero_of_remaining (Nat.le_zero.mp hsteps)]
      simp only [walked, walk, List.map_nil, List.not_mem_nil, false_iff]
      omega
  | succ steps ih =>
      by_cases hdoc : a.doc = noMoreDocs
      · have hnil : a.walked (steps + 1) = [] := by rw [walked, walk, if_pos hdoc, List.map_nil]
        rw [hnil]
        refine ⟨.nil, fun e => ?_⟩
        rw [hdoc] at hstop
        rw [hstop.sharing_eq_zero]
        simp only [List.not_mem_nil, false_iff]
        omega
      · have hcons : a.walked (steps + 1) = a.doc :: a.advance.walked steps := by
          rw [walked, walk, if_neg hdoc, List.map_cons, walked]
        obtain ⟨hminimum, hnext, hless, hsame⟩ := advance_stop hmin hstop hdoc
        obtain ⟨hincreasing, hexact⟩ := ih (hminimum ▸ hmin) (hminimum ▸ hnext) (by omega)
        rw [hminimum] at hexact
        rw [hcons]
        exact hstop.cons_spec hmin hdoc hincreasing fun e => (hexact e).trans (hsame e)

/-- The cursor over what enough parts have is in increasing order and has exactly that. -/
theorem docs_aligned {minimum : Nat} (hmin : 1 ≤ minimum) (ordered : ∀ p ∈ parts, p.Ordered) :
    (aligned minimum parts).toCursor.docs.Pairwise (· < ·) ∧
      ∀ e, e ∈ (aligned minimum parts).toCursor.docs ↔ minimum ≤ sharing e parts := by
  obtain ⟨hstop, hsame⟩ := align_stop hmin ordered
  obtain ⟨hincreasing, hexact⟩ := walked_spec (a := aligned minimum parts) hmin hstop
    (Nat.le_refl _)
  exact ⟨hincreasing, fun e => (hexact e).trans (hsame e)⟩

end AtLeast

end Catalogue
