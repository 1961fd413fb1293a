import Catalogue.Plan.Cursor
import Catalogue.Proofs.Index.AtLeast
import Mathlib.Data.List.Forall2

/-! # What a plan means

A plan says of every document whether it matches, by recursion on the plan. Its cursor over a
segment has the documents that match and no others, in increasing order. -/

namespace Catalogue

/-- The verdicts of one sort among those of clauses. -/
def verdictsOf (occur : Occur) (verdicts : List (Occur × Bool)) : List Bool :=
  (verdicts.filter fun v => v.1 = occur).map Prod.snd

/-- What a boolean plan says of a document, given what its parts say. -/
def partsHold (verdicts : List (Occur × Bool)) : Bool :=
  (verdictsOf .must verdicts).all id && (verdictsOf .mustNot verdicts).all (!·) &&
    (!(verdictsOf .must verdicts).isEmpty || (verdictsOf .should verdicts).any id)

mutual
def Plan.holds (d : Document) : Plan → Bool
  | .all => true
  | .none => false
  | .term field token => (d.tokens field).contains token
  | .boolean parts => partsHold (partVerdicts d parts)
  | .atLeast minimum parts => decide (max 1 minimum ≤ (planVerdicts d parts).count true)
  | .constant plan _ => plan.holds d
  | .boost plan _ => plan.holds d
  | .range field lower upper => (d.tokens field).any (Bound.encloses lower upper)

def planVerdicts (d : Document) : List Plan → List Bool
  | [] => []
  | plan :: rest => plan.holds d :: planVerdicts d rest

def partVerdicts (d : Document) : List (Occur × Plan) → List (Occur × Bool)
  | [] => []
  | (occur, plan) :: rest => (occur, plan.holds d) :: partVerdicts d rest
end

theorem planVerdicts_eq_map (d : Document) (plans : List Plan) :
    planVerdicts d plans = plans.map (·.holds d) := by
  induction plans with
  | nil => rfl
  | cons plan rest ih => rw [planVerdicts, ih, List.map_cons]

theorem partVerdicts_eq_map (d : Document) (parts : List (Occur × Plan)) :
    partVerdicts d parts = parts.map fun p => (p.1, p.2.holds d) := by
  induction parts with
  | nil => rfl
  | cons part rest ih => rw [partVerdicts, ih, List.map_cons]

/-! ## Cursors that find what is meant -/

/-- A cursor finds the documents of a segment with a property: those and no others, in increasing
order. -/
structure Cursor.Finds (c : Cursor) (s : Segment) (p : Document → Bool) : Prop where
  increasing : c.docs.Pairwise (· < ·)
  exact : ∀ doc, doc ∈ c.docs ↔ ∃ d, s[doc]? = some d ∧ p d = true

namespace Cursor

variable {s : Segment} {p : Document → Bool} {c : Cursor}

/-- A cursor that finds documents of a segment stays before the place behind the last match. -/
theorem Finds.ordered (h : c.Finds s p) (hs : s.length ≤ noMoreDocs) : c.Ordered := by
  refine ⟨h.increasing, fun doc hdoc => ?_⟩
  obtain ⟨d, hd, _⟩ := (h.exact doc).mp hdoc
  exact Nat.lt_of_lt_of_le (List.getElem?_eq_some_iff.mp hd).1 hs

/-- Only one list in increasing order has the documents of a segment with a property. -/
theorem Finds.docs_unique (h : c.Finds s p) {docs : List Nat} (increasing : docs.Pairwise (· < ·))
    (exact : ∀ doc, doc ∈ docs ↔ ∃ d, s[doc]? = some d ∧ p d = true) : docs = c.docs := by
  refine List.Perm.eq_of_pairwise (fun m n _ _ hmn hnm => absurd hmn (Nat.lt_asymm hnm))
    increasing h.increasing ?_
  refine (List.perm_ext_iff_of_nodup (increasing.imp Nat.ne_of_lt)
    (h.increasing.imp Nat.ne_of_lt)).mpr fun doc => ?_
  rw [exact doc, h.exact doc]

theorem mem_docsWhere {doc : Nat} : doc ∈ s.docsWhere p ↔ ∃ d, s[doc]? = some d ∧ p d = true := by
  rw [Segment.docsWhere, List.mem_filter, List.mem_range, Option.any_eq_true]
  constructor
  · exact fun h => h.2
  · rintro ⟨d, hd, hp⟩
    exact ⟨(List.getElem?_eq_some_iff.mp hd).1, d, hd, hp⟩

theorem finds_docsWhere (x : Float32) : (ofDocs (s.docsWhere p) x).Finds s p := by
  constructor
  · rw [docs_ofDocs]
    exact List.pairwise_lt_range.filter _
  · intro doc
    rw [docs_ofDocs, mem_docsWhere]

theorem finds_range (x : Float32) : (ofDocs (List.range s.length) x).Finds s fun _ => true := by
  constructor
  · rw [docs_ofDocs]
    exact List.pairwise_lt_range
  · intro doc
    rw [docs_ofDocs, List.mem_range]
    constructor
    · exact fun h => ⟨s[doc], List.getElem?_eq_getElem h, rfl⟩
    · rintro ⟨d, hd, _⟩
      exact (List.getElem?_eq_some_iff.mp hd).1

theorem finds_empty : empty.Finds s fun _ => false :=
  ⟨.nil, fun doc => by simp [docs, empty]⟩

theorem Finds.scored (h : c.Finds s p) (x : Float32) : (c.scored x).Finds s p := by
  constructor
  · rw [docs_scored]
    exact h.increasing
  · intro doc
    rw [docs_scored]
    exact h.exact doc

theorem scoreOf?_isSome_iff {doc : Nat} : (c.scoreOf? doc).isSome = true ↔ doc ∈ c.docs := by
  obtain ⟨entries, _, _⟩ := c
  simp only [scoreOf?, docs]
  induction entries with
  | nil => simp
  | cons e rest ih =>
      obtain ⟨d, x⟩ := e
      rw [List.lookup_cons, List.map_cons, List.mem_cons]
      by_cases h : doc = d
      · simp [h]
      · have hne : (doc == d) = false := beq_eq_false_iff_ne.mpr h
        simp only [hne, ih, h, false_or]

/-- Of a document of the segment, a cursor that finds a property has a score exactly if it has the
property. -/
theorem Finds.scoreOf?_isSome (h : c.Finds s p) {doc : Nat} {d : Document}
    (hd : s[doc]? = some d) : (c.scoreOf? doc).isSome = p d := by
  rw [Bool.eq_iff_iff, scoreOf?_isSome_iff, h.exact doc]
  constructor
  · rintro ⟨e, he, hp⟩
    rw [hd, Option.some.injEq] at he
    exact he ▸ hp
  · exact fun hp => ⟨d, hd, hp⟩

end Cursor

/-! ## Joined and shared cursors -/

section

variable {s : Segment}

/-- A boolean plan joins its cursors as it judges by their verdicts. -/
theorem partsMatch_eq (parts : List (Occur × Cursor)) (doc : Nat) :
    partsMatch parts doc =
      partsHold (parts.map fun p => (p.1, (p.2.scoreOf? doc).isSome)) := by
  have hof : ∀ occur, verdictsOf occur (parts.map fun p => (p.1, (p.2.scoreOf? doc).isSome)) =
      (parts.filter fun p => p.1 = occur).map fun p => (p.2.scoreOf? doc).isSome := by
    intro occur
    rw [verdictsOf, List.filter_map, List.map_map]
    rfl
  simp only [partsMatch, partsHold, hof, List.all_map, List.any_map, List.isEmpty_map]
  rfl

theorem verdicts_of_cursors {cursors : List (Occur × Cursor)} {parts : List (Occur × Plan)}
    (h : List.Forall₂ (fun c p => c.1 = p.1 ∧ c.2.Finds s (p.2.holds ·)) cursors parts)
    {doc : Nat} {d : Document} (hd : s[doc]? = some d) :
    (cursors.map fun c => (c.1, (c.2.scoreOf? doc).isSome)) = partVerdicts d parts := by
  induction h with
  | nil => rfl
  | @cons c p _ _ hcp _ ih =>
      rw [List.map_cons, ih, partVerdicts, hcp.1, hcp.2.scoreOf?_isSome hd]

theorem finds_joinParts {cursors : List (Occur × Cursor)} {parts : List (Occur × Plan)}
    (h : List.Forall₂ (fun c p => c.1 = p.1 ∧ c.2.Finds s (p.2.holds ·)) cursors parts) :
    (joinParts s.length cursors).Finds s fun d => partsHold (partVerdicts d parts) := by
  have hdocs : (joinParts s.length cursors).docs =
      (List.range s.length).filter (partsMatch cursors) := by
    simp [joinParts, Cursor.docs, Function.comp_def]
  constructor
  · rw [hdocs]
    exact List.pairwise_lt_range.filter _
  · intro doc
    rw [hdocs, List.mem_filter, List.mem_range]
    constructor
    · rintro ⟨hlt, hmatch⟩
      have hd := List.getElem?_eq_getElem hlt
      rw [partsMatch_eq, verdicts_of_cursors h hd] at hmatch
      exact ⟨s[doc], hd, hmatch⟩
    · rintro ⟨d, hd, hholds⟩
      refine ⟨(List.getElem?_eq_some_iff.mp hd).1, ?_⟩
      rw [partsMatch_eq, verdicts_of_cursors h hd]
      exact hholds

theorem sharing_of_cursors {cursors : List Cursor} {plans : List Plan}
    (h : List.Forall₂ (fun c p => c.Finds s (p.holds ·)) cursors plans) {doc : Nat} {d : Document}
    (hd : s[doc]? = some d) : AtLeast.sharing doc cursors = (planVerdicts d plans).count true := by
  induction h with
  | nil => rfl
  | @cons c p cursors plans hcp _ ih =>
      have hmem : decide (doc ∈ c.docs) = p.holds d := by
        rw [← hcp.scoreOf?_isSome hd, Bool.eq_iff_iff, decide_eq_true_iff,
          Cursor.scoreOf?_isSome_iff]
      rw [AtLeast.sharing] at ih ⊢
      rw [planVerdicts, List.countP_cons, List.count_cons, ih, hmem]
      cases p.holds d <;> rfl

theorem exists_finds_of_cursors {cursors : List Cursor} {plans : List Plan}
    (h : List.Forall₂ (fun c p => c.Finds s (p.holds ·)) cursors plans) :
    ∀ c ∈ cursors, ∃ p, c.Finds s p :=
  ((List.forall₂_and_left _ _).mp (h.imp fun _ p hcp => ⟨⟨(p.holds ·), hcp⟩, hcp⟩)).1

/-- Enough cursors have a document exactly if it is one of the segment that enough plans match. -/
theorem le_sharing_of_cursors {minimum : Nat} (hmin : 1 ≤ minimum) {cursors : List Cursor}
    {plans : List Plan} (h : List.Forall₂ (fun c p => c.Finds s (p.holds ·)) cursors plans)
    {doc : Nat} : minimum ≤ AtLeast.sharing doc cursors ↔
      ∃ d, s[doc]? = some d ∧ decide (minimum ≤ (planVerdicts d plans).count true) = true := by
  constructor
  · intro hshared
    obtain ⟨c, hc, hmem⟩ := AtLeast.exists_of_sharing_pos (Nat.lt_of_lt_of_le hmin hshared)
    obtain ⟨p, hp⟩ := exists_finds_of_cursors h c hc
    obtain ⟨d, hd, _⟩ := (hp.exact doc).mp hmem
    rw [sharing_of_cursors h hd] at hshared
    exact ⟨d, hd, decide_eq_true hshared⟩
  · rintro ⟨d, hd, hcount⟩
    rw [sharing_of_cursors h hd]
    exact of_decide_eq_true hcount

theorem finds_sharedCursor {minimum : Nat} (hmin : 1 ≤ minimum) (hs : s.length ≤ noMoreDocs)
    {cursors : List Cursor} {plans : List Plan}
    (h : List.Forall₂ (fun c p => c.Finds s (p.holds ·)) cursors plans) :
    (sharedCursor minimum cursors).Finds s fun d =>
      decide (minimum ≤ (planVerdicts d plans).count true) := by
  unfold sharedCursor
  split
  · rename_i hfew
    refine ⟨.nil, fun doc => ?_⟩
    simp only [Cursor.docs, Cursor.empty, List.map_nil, List.not_mem_nil, decide_eq_true_eq,
      false_iff]
    rintro ⟨d, _, hcount⟩
    have hle := List.count_le_length (a := true) (l := planVerdicts d plans)
    rw [planVerdicts_eq_map, List.length_map, ← h.length_eq] at hle
    rw [planVerdicts_eq_map] at hcount
    omega
  · have hordered : ∀ c ∈ cursors, c.Ordered := by
      intro c hc
      obtain ⟨p, hp⟩ := exists_finds_of_cursors h c hc
      exact hp.ordered hs
    obtain ⟨hincreasing, hexact⟩ := AtLeast.docs_aligned hmin hordered
    exact ⟨hincreasing, fun doc => (hexact doc).trans (le_sharing_of_cursors hmin h)⟩

end

/-! ## The cursor of a plan -/

section

variable {s : Segment}

mutual
/-- The cursor of a plan finds the documents that the plan matches, under every boost. -/
theorem Plan.cursor_finds (hs : s.length ≤ noMoreDocs) (boost : Float32) :
    (plan : Plan) → (plan.cursor s boost).Finds s (plan.holds ·)
  | .all => Cursor.finds_range boost
  | .none => Cursor.finds_empty
  | .term _ _ => Cursor.finds_docsWhere 0.0
  | .boolean parts => finds_joinParts (clauseCursors_find hs boost parts)
  | .atLeast minimum parts =>
      finds_sharedCursor (Nat.le_max_left 1 minimum) hs (allCursors_find hs boost parts)
  | .constant plan score => (plan.cursor_finds hs boost).scored (boost * score)
  | .boost plan factor => plan.cursor_finds hs (boost * factor)
  | .range _ _ _ => Cursor.finds_docsWhere boost

theorem allCursors_find (hs : s.length ≤ noMoreDocs) (boost : Float32) : (plans : List Plan) →
    List.Forall₂ (fun c p => Cursor.Finds c s (Plan.holds · p)) (allCursors s boost plans) plans
  | [] => .nil
  | plan :: rest => .cons (plan.cursor_finds hs boost) (allCursors_find hs boost rest)

theorem clauseCursors_find (hs : s.length ≤ noMoreDocs) (boost : Float32) :
    (parts : List (Occur × Plan)) →
    List.Forall₂ (fun c p => c.1 = p.1 ∧ Cursor.Finds c.2 s (Plan.holds · p.2))
      (clauseCursors s boost parts) parts
  | [] => .nil
  | (_, plan) :: rest =>
      .cons ⟨rfl, plan.cursor_finds hs boost⟩ (clauseCursors_find hs boost rest)
end

end

end Catalogue
