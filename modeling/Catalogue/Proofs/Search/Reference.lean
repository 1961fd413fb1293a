import Catalogue.Proofs.Query.Meaning
import Catalogue.Proofs.Search.Ranking
import Catalogue.Search.Service

/-! # What a search should answer

The documents that a query means, in the order of the index, each with what its entry point gives
there, determine the answer of a search: the failure of the first that fails, and otherwise the
best of those that can be ranked. -/

namespace Catalogue

/-- A document of an index: the number of its segment and its own, its segment, and itself. -/
structure Found where
  number : Nat
  doc : Nat
  segment : Segment
  document : Document

/-- Where a search stands when it has reached a document. -/
def Found.place (m : Found) : Place := ⟨some m.segment, some m.doc⟩

/-- The order of the index. -/
def Found.Before (m n : Found) : Prop := m.number < n.number ∨ m.number = n.number ∧ m.doc < n.doc

def Query.foundIn (a : Analyzer) (q : Query) (number : Nat) (segment : Segment) : List Found :=
  (segment.zipIdx.filter fun p => q.holds a p.1).map fun p => ⟨number, p.2, segment, p.1⟩

/-- The documents of segments that a query means, where the first segment has the given number. -/
def Query.foundFrom (a : Analyzer) (q : Query) : Nat → List Segment → List Found
  | _, [] => []
  | number, segment :: rest => q.foundIn a number segment ++ q.foundFrom a (number + 1) rest

/-- What the value of an entry point is multiplied by. -/
def searchWeight : Float32 := 1.0 * queryNorm * 1.0

def rankable (p : Found × Float32) : Bool := lowestScore < p.2

/-- A match is ahead of another if it scores more, or as much and comes first in the index. -/
def Ahead (x y : Found × Float32) : Prop :=
  y.2 < x.2 ∨ (y.2 ≤ x.2 ∧ x.2 ≤ y.2) ∧ x.1.Before y.1

/-- What a search for so many hits answers, given what the entry point gives for every match, in
the order of the index. -/
inductive IsAnswer (limit : Nat) :
    List (Found × Except ScoreError Float32) → Except SearchError (List Hit) → Prop where
  | fails {before m e after} : (∀ p ∈ before, ∃ x, p.2 = .ok x) →
      IsAnswer limit (before ++ (m, .error e) :: after) (.error (.scoring e))
  | ranks {scored : List (Found × Float32)} {ranked : List (Found × Float32)} :
      ranked.Perm ((scored.map fun p => (p.1, p.2 * searchWeight)).filter rankable) →
      ranked.Pairwise Ahead →
      IsAnswer limit (scored.map fun p => (p.1, .ok p.2))
        (.ok ((ranked.take limit).map fun p => ⟨Service.book p.1.document, p.2⟩))

/-! ## Answers are determined -/

def firstFailure? (results : List (Found × Except ScoreError Float32)) : Option ScoreError :=
  results.findSome? fun p => errorOf? p.2

theorem exists_scored {results : List (Found × Except ScoreError Float32)}
    (h : firstFailure? results = none) :
    ∃ scored : List (Found × Float32), results = scored.map fun p => (p.1, .ok p.2) := by
  induction results with
  | nil => exact ⟨[], rfl⟩
  | cons p rest ih =>
      obtain ⟨m, r⟩ := p
      cases r with
      | error e => cases h
      | ok x =>
          obtain ⟨scored, hscored⟩ := ih h
          exact ⟨(m, x) :: scored, by rw [List.map_cons, hscored]⟩

theorem eq_of_map_scored_eq {scored scored' : List (Found × Float32)}
    (h : (scored.map fun p => (p.1, (.ok p.2 : Except ScoreError Float32))) =
      scored'.map fun p => (p.1, .ok p.2)) : scored = scored' := by
  refine List.map_injective_iff.mpr (fun p q hpq => ?_) h
  exact Prod.ext (Prod.mk.inj hpq).1 (Except.ok.inj (Prod.mk.inj hpq).2)

theorem exists_failing {results : List (Found × Except ScoreError Float32)} {e : ScoreError}
    (h : firstFailure? results = some e) :
    ∃ before m after, results = before ++ (m, .error e) :: after ∧
      ∀ p ∈ before, ∃ x, p.2 = .ok x := by
  induction results with
  | nil => cases h
  | cons p rest ih =>
      obtain ⟨m, r⟩ := p
      cases r with
      | error x =>
          cases h
          exact ⟨[], m, rest, rfl, fun _ hp => absurd hp List.not_mem_nil⟩
      | ok x =>
          obtain ⟨before, n, after, hrest, hbefore⟩ := ih h
          refine ⟨(m, .ok x) :: before, n, after, by rw [hrest]; rfl, fun p hp => ?_⟩
          rcases List.mem_cons.mp hp with rfl | hp
          · exact ⟨x, rfl⟩
          · exact hbefore p hp

theorem firstFailure?_scored (scored : List (Found × Float32)) :
    firstFailure? (scored.map fun p => (p.1, .ok p.2)) = none := by
  rw [firstFailure?, List.findSome?_map, List.findSome?_eq_none_iff]
  exact fun _ _ => rfl

theorem firstFailure?_fails {before after : List (Found × Except ScoreError Float32)} {m : Found}
    {e : ScoreError} (h : ∀ p ∈ before, ∃ x, p.2 = .ok x) :
    firstFailure? (before ++ (m, .error e) :: after) = some e := by
  have hnone : before.findSome? (fun p => errorOf? p.2) = none := by
    refine List.findSome?_eq_none_iff.mpr fun p hp => ?_
    obtain ⟨x, hx⟩ := h p hp
    rw [hx]
    rfl
  rw [firstFailure?, List.findSome?_append, hnone]
  rfl

/-- A failure among the results is the answer. -/
theorem IsAnswer.eq_error {limit : Nat} {results : List (Found × Except ScoreError Float32)}
    {r : Except SearchError (List Hit)} {e : ScoreError} (h : IsAnswer limit results r)
    (hfailure : firstFailure? results = some e) : r = .error (.scoring e) := by
  cases h with
  | fails hbefore =>
      rw [firstFailure?_fails hbefore] at hfailure
      cases hfailure
      rfl
  | ranks =>
      rw [firstFailure?_scored] at hfailure
      cases hfailure

theorem Ahead.asymm {x y : Found × Float32} (h : Ahead x y) : ¬Ahead y x := by
  rcases h with hlt | ⟨⟨hyx, hxy⟩, hbefore⟩
  · rintro (hgt | ⟨⟨hle, _⟩, _⟩)
    · exact score_not_le_of_lt hlt (score_le_of_lt hgt)
    · exact score_not_le_of_lt hlt hle
  · rintro (hgt | ⟨_, hafter⟩)
    · exact score_not_le_of_lt hgt hyx
    · unfold Found.Before at hbefore hafter
      omega

/-- There is only one answer. -/
theorem IsAnswer.unique {limit : Nat} {results : List (Found × Except ScoreError Float32)}
    {r r' : Except SearchError (List Hit)} (h : IsAnswer limit results r)
    (h' : IsAnswer limit results r') : r = r' := by
  cases h with
  | fails hbefore => exact (h'.eq_error (firstFailure?_fails hbefore)).symm
  | @ranks scored ranked hperm hahead =>
      generalize hresults : (scored.map fun p => (p.1, Except.ok p.2)) = results at h'
      cases h' with
      | fails hbefore =>
          have hnone := firstFailure?_scored scored
          rw [hresults, firstFailure?_fails hbefore] at hnone
          cases hnone
      | @ranks scored' ranked' hperm' hahead' =>
          obtain rfl := eq_of_map_scored_eq hresults
          have hranked : ranked = ranked' := List.Perm.eq_of_pairwise
            (fun _ _ _ _ hpq hqp => absurd hqp hpq.asymm) hahead hahead' (hperm.trans hperm'.symm)
          rw [hranked]

/-! ## Where the found documents are -/

section

variable {a : Analyzer} {q : Query}

theorem mem_foundIn {number : Nat} {segment : Segment} {m : Found} :
    m ∈ q.foundIn a number segment ↔ m.number = number ∧ m.segment = segment ∧
      segment[m.doc]? = some m.document ∧ q.holds a m.document = true := by
  rw [Query.foundIn, List.mem_map]
  constructor
  · rintro ⟨p, hp, rfl⟩
    obtain ⟨hp, hholds⟩ := List.mem_filter.mp hp
    exact ⟨rfl, rfl, List.mem_zipIdx_iff_getElem?.mp hp, hholds⟩
  · rintro ⟨rfl, rfl, hd, hholds⟩
    refine ⟨(m.document, m.doc), List.mem_filter.mpr ⟨?_, hholds⟩, rfl⟩
    exact List.mem_zipIdx_iff_getElem?.mpr hd

theorem foundIn_increasing (number : Nat) (segment : Segment) :
    ((q.foundIn a number segment).map Found.doc).Pairwise (· < ·) := by
  have hidx : (segment.zipIdx.map Prod.snd).Pairwise (· < ·) := by
    rw [List.zipIdx_map_snd]
    exact List.pairwise_lt_range'
  rw [Query.foundIn, List.map_map, List.pairwise_map]
  exact (List.pairwise_map.mp hidx).filter _

theorem mem_foundFrom {first : Nat} {segments : List Segment} {m : Found} :
    m ∈ q.foundFrom a first segments ↔ first ≤ m.number ∧
      segments[m.number - first]? = some m.segment ∧ m.segment[m.doc]? = some m.document ∧
      q.holds a m.document = true := by
  induction segments generalizing first with
  | nil => simp [Query.foundFrom]
  | cons segment rest ih =>
      rw [Query.foundFrom, List.mem_append, mem_foundIn, ih]
      constructor
      · rintro (⟨hnumber, hsegment, hd, hholds⟩ | ⟨hle, hsegment, hd, hholds⟩)
        · refine ⟨by omega, ?_, hsegment ▸ hd, hholds⟩
          rw [hnumber, Nat.sub_self, hsegment]
          rfl
        · refine ⟨by omega, ?_, hd, hholds⟩
          rw [show m.number - first = m.number - (first + 1) + 1 by omega]
          exact hsegment
      · rintro ⟨hle, hsegment, hd, hholds⟩
        rcases Nat.eq_or_lt_of_le hle with heq | hlt
        · rw [← heq, Nat.sub_self] at hsegment
          cases hsegment
          exact .inl ⟨heq.symm, rfl, hd, hholds⟩
        · rw [show m.number - first = m.number - (first + 1) + 1 by omega] at hsegment
          exact .inr ⟨hlt, hsegment, hd, hholds⟩

/-- What is found comes in the order of the index. -/
theorem foundFrom_pairwise (first : Nat) (segments : List Segment) :
    (q.foundFrom a first segments).Pairwise Found.Before := by
  induction segments generalizing first with
  | nil => exact .nil
  | cons segment rest ih =>
      refine List.pairwise_append.mpr ⟨?_, ih (first + 1), fun m hm n hn => ?_⟩
      · refine (List.pairwise_map.mp (foundIn_increasing first segment)).imp_of_mem ?_
        intro m n hm hn hlt
        exact .inr ⟨(mem_foundIn.mp hm).1.trans (mem_foundIn.mp hn).1.symm, hlt⟩
      · have hm := (mem_foundIn.mp hm).1
        have hn := (mem_foundFrom.mp hn).1
        exact .inl (by omega)

end

end Catalogue
