import Catalogue.Proofs.Index.Moves
import Catalogue.Proofs.Plan.Meaning
import Catalogue.Search.Computed

/-! # Which documents are explained

An explanation seeks the document with a fresh cursor and looks where it arrives. That is on the
document exactly if the document matches, with one exception: the place behind all documents, where
every cursor arrives, passes for a match. -/

namespace Catalogue

/-- Documents with a property are explained, and so is the place behind all documents, whether it
has the property or not. All others are refused as documents that do not match. -/
structure ExplainsOnly {α : Type} (found : Nat → Prop) (explain : Nat → Except ExplainError α) :
    Prop where
  explains : ∀ doc, found doc ∨ doc = noMoreDocs → ∃ x, explain doc = .ok x
  refuses : ∀ doc, ¬found doc → doc ≠ noMoreDocs → explain doc = .error (.doesNotMatch doc)

section

variable {α β : Type} {found : Nat → Prop} {explain : Nat → Except ExplainError α}

theorem ExplainsOnly.congr {same : Nat → Prop} (h : ExplainsOnly found explain)
    (hsame : ∀ doc, same doc ↔ found doc) : ExplainsOnly same explain where
  explains doc hdoc := h.explains doc (hdoc.imp_left (hsame doc).mp)
  refuses doc hdoc := h.refuses doc fun hfound => hdoc ((hsame doc).mpr hfound)

/-- What is made of a score afterwards does not change which documents are explained. -/
theorem ExplainsOnly.map (h : ExplainsOnly found explain) (f : Nat → α → β) :
    ExplainsOnly found fun doc => (explain doc).map (f doc) where
  explains doc hdoc := by
    obtain ⟨x, hx⟩ := h.explains doc hdoc
    exact ⟨f doc x, congrArg (Except.map (f doc)) hx⟩
  refuses doc hfound hdoc := congrArg (Except.map (f doc)) (h.refuses doc hfound hdoc)

/-- A test of where a fresh cursor arrives decides which documents are explained. -/
theorem explainsOnly_of_iff {arrives : Nat → Bool} (score : Nat → α)
    (h : ∀ doc, arrives doc = true ↔ found doc ∨ doc = noMoreDocs) :
    ExplainsOnly found fun doc =>
      if arrives doc then .ok (score doc) else .error (.doesNotMatch doc) where
  explains doc hdoc := ⟨score doc, if_pos ((h doc).mpr hdoc)⟩
  refuses doc hfound hdoc := if_neg fun harrives =>
    ((h doc).mp harrives).elim hfound hdoc

/-- A document is explained if it is found, and refused as not matching if it is not. -/
def Decides (found : Prop) (doc : Nat) (result : Except ExplainError α) : Prop :=
  (found ∧ ∃ x, result = .ok x) ∨ (¬found ∧ result = .error (.doesNotMatch doc))

theorem ExplainsOnly.decides (h : ExplainsOnly found explain) {doc : Nat}
    (hdoc : doc ≠ noMoreDocs) : Decides (found doc) doc (explain doc) := by
  by_cases hfound : found doc
  · exact .inl ⟨hfound, h.explains doc (.inl hfound)⟩
  · exact .inr ⟨hfound, h.refuses doc hfound hdoc⟩

theorem Decides.bind_ok {found : Prop} {doc : Nat} {result : Except ExplainError α}
    (h : Decides found doc result) (f : α → β) :
    Decides found doc (result >>= fun x => .ok (f x)) := by
  rcases h with ⟨hfound, x, rfl⟩ | ⟨hfound, rfl⟩
  · exact .inl ⟨hfound, f x, rfl⟩
  · exact .inr ⟨hfound, rfl⟩

end

/-! ## Where a fresh cursor arrives -/

section

variable {c : Cursor} {doc : Nat}

theorem Cursor.Ordered.doc_le_noMoreDocs (h : c.Ordered) : c.doc ≤ noMoreDocs := by
  by_cases hdoc : c.doc = noMoreDocs
  · exact Nat.le_of_eq hdoc
  · exact Nat.le_of_lt (h.bounded c.doc (Cursor.doc_mem hdoc))

/-- A cursor that seeks a document arrives on it if it has it, and else on another one or behind
all documents. -/
theorem Cursor.Ordered.doc_seek_eq_iff (h : c.Ordered) :
    (c.seek doc).doc = doc ↔ doc ∈ c.docs ∨ doc = noMoreDocs := by
  constructor
  · intro harrives
    by_cases hdoc : doc = noMoreDocs
    · exact .inr hdoc
    · have hmem : (c.seek doc).doc ∈ (c.seek doc).docs := Cursor.doc_mem (by omega)
      rw [harrives] at hmem
      exact .inl (h.mem_docs_seek.mp hmem).2
  · have hsought := h.seek doc
    rintro (hmem | rfl)
    · have hle := h.le_doc_seek (Nat.le_of_lt (h.bounded doc hmem))
      exact Nat.le_antisymm (hsought.doc_le (h.mem_docs_seek.mpr ⟨Nat.le_refl doc, hmem⟩)) hle
    · exact Nat.le_antisymm hsought.doc_le_noMoreDocs (h.le_doc_seek (Nat.le_refl _))

/-- With a fresh cursor the documents that it has are explained. -/
theorem Cursor.Ordered.explainsOnly (h : c.Ordered) : ExplainsOnly (· ∈ c.docs) c.scoreAt := by
  refine explainsOnly_of_iff (fun doc => (c.seek doc).score) fun doc => ?_
  rw [Bool.and_eq_true, decide_eq_true_iff, decide_eq_true_iff, h.doc_seek_eq_iff,
    and_iff_right_iff_imp]
  rintro (hmem | rfl)
  · exact h.doc_le hmem
  · exact h.doc_le_noMoreDocs

end

namespace AtLeast

variable {minimum doc : Nat} {parts : List Cursor}

theorem Lands.le_of_shared {start e : Nat} (h : Lands minimum parts start doc) (hstart : start ≤ e)
    (henough : minimum ≤ sharing e parts) : doc ≤ e := by
  cases h with
  | on _ _ hfirst => exact hfirst e hstart henough
  | behind hnone => exact absurd henough (hnone e hstart)

theorem Lands.shared_or {start : Nat} (h : Lands minimum parts start doc) :
    minimum ≤ sharing doc parts ∨ doc = noMoreDocs := by
  cases h with
  | on _ henough _ => exact .inl henough
  | behind _ => exact .inr rfl

/-- A cursor over what enough parts share, seeking a document from the start, arrives on it if
enough parts have it. -/
theorem aligned_arrives_iff (ordered : ∀ p ∈ parts, p.Ordered) (hmin : 1 ≤ minimum) :
    (aligned minimum parts).doc ≤ doc ∧ ((aligned minimum parts).seek doc).doc = doc ↔
      minimum ≤ sharing doc parts ∨ doc = noMoreDocs := by
  obtain ⟨hplaced, hfirst⟩ := aligned_lands ordered hmin
  generalize aligned minimum parts = a at *
  have hbounded := hplaced.bounded
  -- Where seeking leads if it leads anywhere: the first document from the target on.
  have hlands : a.doc ≤ doc → Lands minimum parts doc (a.seek doc).doc := by
    intro hle
    by_cases hthere : doc ≤ a.doc
    · rw [show a.seek doc = a from if_pos hthere]
      exact hfirst.from_later (Nat.zero_le doc) hthere
    · exact (hplaced.seek ordered hmin (Nat.lt_of_not_le hthere)).2
  constructor
  · rintro ⟨hle, harrives⟩
    have hlanded := hlands hle
    rw [harrives] at hlanded
    exact hlanded.shared_or
  · rintro (henough | rfl)
    · have hle := hfirst.le_of_shared (Nat.zero_le doc) henough
      exact ⟨hle, (hlands hle).unique (.on (Nat.le_refl doc) henough fun e he _ => he)⟩
    · refine ⟨hbounded, (hlands hbounded).unique (.behind fun e he => ?_)⟩
      rw [sharing_eq_zero_of_le ordered he]
      omega

/-- With fresh cursors the documents that enough of them share are explained. -/
theorem sharedScoreAt_explainsOnly (ordered : ∀ p ∈ parts, p.Ordered) (hmin : 1 ≤ minimum) :
    ExplainsOnly (fun doc => minimum ≤ sharing doc parts) (sharedScoreAt minimum parts) := by
  unfold sharedScoreAt
  by_cases hfew : parts.length < minimum
  · simp only [if_pos hfew]
    have hempty : Cursor.empty.Ordered := ⟨.nil, fun d hd => absurd hd List.not_mem_nil⟩
    refine hempty.explainsOnly.congr fun doc => ?_
    have hle : sharing doc parts ≤ parts.length := List.countP_le_length
    simp only [Cursor.docs, Cursor.empty, List.map_nil, List.not_mem_nil, iff_false]
    omega
  · simp only [if_neg hfew]
    refine explainsOnly_of_iff (fun doc => ((aligned minimum parts).seek doc).score) fun doc => ?_
    rw [Bool.and_eq_true, decide_eq_true_iff, decide_eq_true_iff]
    exact aligned_arrives_iff ordered hmin

end AtLeast

/-! ## Queries -/

section

variable {s : Segment}

def Plan.MatchesIn (p : Plan) (s : Segment) (doc : Nat) : Prop :=
  ∃ d, s[doc]? = some d ∧ p.holds d = true

/-- The place behind all documents is none of theirs. -/
theorem ne_noMoreDocs_of_getElem? (hs : s.length ≤ noMoreDocs) {doc : Nat} {d : Document}
    (hd : s[doc]? = some d) : doc ≠ noMoreDocs :=
  Nat.ne_of_lt (Nat.lt_of_lt_of_le (List.getElem?_eq_some_iff.mp hd).1 hs)

theorem allCursors_ordered (hs : s.length ≤ noMoreDocs) (boost : Float32) (plans : List Plan) :
    ∀ c ∈ allCursors s boost plans, c.Ordered := by
  intro c hc
  obtain ⟨p, hp⟩ := exists_finds_of_cursors (allCursors_find hs boost plans) c hc
  exact hp.ordered hs

/-- Enough cursors of plans have a document exactly if enough of the plans match it. -/
theorem sharing_allCursors_iff (hs : s.length ≤ noMoreDocs) (boost : Float32) (minimum : Nat)
    (parts : List Plan) (doc : Nat) :
    max 1 minimum ≤ AtLeast.sharing doc (allCursors s boost parts) ↔
      (Plan.atLeast minimum parts).MatchesIn s doc := by
  rw [le_sharing_of_cursors (Nat.le_max_left 1 minimum) (allCursors_find hs boost parts),
    Plan.MatchesIn]
  simp only [Plan.holds]

theorem Plan.atLeast_explainsOnly (hs : s.length ≤ noMoreDocs) (minimum : Nat) (parts : List Plan) :
    ExplainsOnly ((Plan.atLeast minimum parts).MatchesIn s) fun doc =>
      (Plan.atLeast minimum parts).explain s doc := by
  have hshared := AtLeast.sharedScoreAt_explainsOnly (allCursors_ordered hs 1.0 parts)
    (Nat.le_max_left 1 minimum)
  have hexplains := hshared.congr fun doc => (sharing_allCursors_iff hs 1.0 minimum parts doc).symm
  simp only [Plan.explain]
  exact hexplains.map fun doc x => Explanation.mk x
    s!"sum of at least {Decimal.natural (max 1 minimum)} matching clauses:"
    (matching (explainAll s doc parts))

theorem Plan.cursor_explainsOnly (hs : s.length ≤ noMoreDocs) (boost : Float32) (p : Plan) :
    ExplainsOnly (p.MatchesIn s) (p.cursor s boost).scoreAt := by
  have hfinds := p.cursor_finds hs boost
  exact (hfinds.ordered hs).explainsOnly.congr fun doc => (hfinds.exact doc).symm

/-- Every plan explains the documents that it matches, and refuses all others but the place behind
all documents, which some plans refuse and some do not. -/
theorem Plan.explain_decides (hs : s.length ≤ noMoreDocs) {doc : Nat} (hdoc : doc ≠ noMoreDocs)
    (p : Plan) : Decides (p.MatchesIn s doc) doc (p.explain s doc) := by
  cases p with
  | all =>
      unfold explain
      by_cases hlt : s.length ≤ doc
      · rw [if_pos hlt]
        refine .inr ⟨?_, rfl⟩
        rintro ⟨d, hd, _⟩
        exact absurd (List.getElem?_eq_some_iff.mp hd).1 (Nat.not_lt.mpr hlt)
      · rw [if_neg hlt]
        have hd := List.getElem?_eq_getElem (Nat.lt_of_not_le hlt)
        exact .inl ⟨⟨_, hd, by rw [holds]⟩, _, rfl⟩
  | none =>
      unfold explain
      refine .inr ⟨?_, rfl⟩
      rintro ⟨d, _, hholds⟩
      rw [holds] at hholds
      cases hholds
  | term field token =>
      unfold explain
      exact (((Plan.term field token).cursor_explainsOnly hs 1.0).decides hdoc).bind_ok _
  | boolean parts =>
      unfold explain
      exact (((Plan.boolean parts).cursor_explainsOnly hs 1.0).decides hdoc).bind_ok _
  | atLeast minimum parts => exact (Plan.atLeast_explainsOnly hs minimum parts).decides hdoc
  | constant p score =>
      have hcursor := (p.cursor_explainsOnly hs 1.0).decides hdoc
      have hinner := p.explain_decides hs hdoc
      unfold explain MatchesIn
      simp only [holds]
      rcases hcursor with ⟨hmatches, x, hx⟩ | ⟨hmatches, hx⟩
      · rw [hx]
        exact hinner.bind_ok _
      · rw [hx]
        exact .inr ⟨hmatches, rfl⟩
  | boost p factor =>
      have hinner := p.explain_decides hs hdoc
      unfold explain MatchesIn
      simp only [holds]
      exact hinner.bind_ok _
  | range field lower upper =>
      unfold explain
      exact (((Plan.range field lower upper).cursor_explainsOnly hs 1.0).decides hdoc).bind_ok _

namespace ComputedQuery

variable {σ : Type}

/-- Neither the context nor the score of a query ever fails. -/
structure NeverFails (q : ComputedQuery σ) : Prop where
  enters : ∀ segment world, ∃ next, q.context.onSegment segment world = (.ok (), next)
  computes : ∀ state, ∃ x next, q.compute state = (.ok x, next)

theorem explainsOnly (hs : s.length ≤ noMoreDocs) {q : ComputedQuery σ} (h : q.NeverFails)
    (state : SearchState σ) :
    ExplainsOnly (q.plan.MatchesIn s) fun doc => (q.explain s doc state).1 := by
  have hcursor := q.plan.cursor_explainsOnly hs 1.0
  constructor
  · intro doc hdoc
    obtain ⟨x, hx⟩ := hcursor.explains doc hdoc
    obtain ⟨world, hentered⟩ := h.enters s state.world
    obtain ⟨y, next, hcomputed⟩ :=
      h.computes { state with world := q.context.onDoc doc world }
    unfold explain
    simp only [hx, hentered, hcomputed]
    exact ⟨_, rfl⟩
  · intro doc hmatches hdoc
    simp only [explain, hcursor.refuses doc hmatches hdoc]

end ComputedQuery

end

/-- Whatever number is asked for, a query of enough matching parts and a computed query explain the
documents of a segment that they match, and refuse the others as not matching; but both explain the
place behind all documents as well. So it is over the cursors of any queries: over one, and over
what enough of several share. -/
theorem explain_refuses_others {s : Segment} (hs : s.length ≤ noMoreDocs) :
    (∀ minimum parts, ExplainsOnly ((Plan.atLeast minimum parts).MatchesIn s) fun doc =>
      (Plan.atLeast minimum parts).explain s doc) ∧
    (∀ {σ : Type} (q : ComputedQuery σ), q.NeverFails → ∀ state,
      ExplainsOnly (q.plan.MatchesIn s) fun doc => (q.explain s doc state).1) ∧
    (∀ {c : Cursor}, c.Ordered → ExplainsOnly (· ∈ c.docs) c.scoreAt) ∧
    ∀ {parts : List Cursor} {minimum : Nat}, (∀ p ∈ parts, p.Ordered) → 1 ≤ minimum →
      ExplainsOnly (fun doc => minimum ≤ AtLeast.sharing doc parts)
        (sharedScoreAt minimum parts) :=
  ⟨Plan.atLeast_explainsOnly hs, fun _ h state => ComputedQuery.explainsOnly hs h state,
    Cursor.Ordered.explainsOnly, AtLeast.sharedScoreAt_explainsOnly⟩

def Segment.blank : Segment := [⟨fieldValues [] [], fun _ => []⟩]

def ComputedQuery.silent : ComputedQuery Unit := ⟨.all, 1.0, .all [], pure 1.0⟩

theorem explain_refuses_behind_blank :
    ((∃ x, (Plan.atLeast 1 [.all]).explain .blank 0 = .ok x) ∧
      (Plan.atLeast 1 [.all]).explain .blank 1 = .error (.doesNotMatch 1)) ∧
    (∃ x, (ComputedQuery.silent.explain .blank 0 ⟨(), none⟩).1 = .ok x) ∧
      (ComputedQuery.silent.explain .blank 1 ⟨(), none⟩).1 = .error (.doesNotMatch 1) := by
  have hsize : Segment.blank.length ≤ noMoreDocs := by decide
  obtain ⟨hshared, hcomputed, _⟩ := explain_refuses_others hsize
  have hsilent : ComputedQuery.silent.NeverFails :=
    ⟨fun _ world => ⟨world, rfl⟩, fun state => ⟨1.0, state, rfl⟩⟩
  have hbehind : ∀ p : Plan, ¬p.MatchesIn .blank 1 := by
    rintro p ⟨d, hd, _⟩
    cases hd
  exact ⟨⟨(hshared 1 [.all]).explains 0 (.inl ⟨_, rfl, rfl⟩),
      (hshared 1 [.all]).refuses 1 (hbehind _) (by decide)⟩,
    (hcomputed _ hsilent ⟨(), none⟩).explains 0 (.inl ⟨_, rfl, rfl⟩),
    (hcomputed _ hsilent ⟨(), none⟩).refuses 1 (hbehind _) (by decide)⟩

/-- The place behind all documents is no document, and is explained. -/
theorem explain_accepts_behind_blank :
    ¬((Plan.atLeast 1 [.all]).explain .blank noMoreDocs = .error (.doesNotMatch noMoreDocs) ↔
      ¬(Plan.atLeast 1 [.all]).MatchesIn .blank noMoreDocs) := by
  have hnowhere : ¬(Plan.atLeast 1 [.all]).MatchesIn .blank noMoreDocs := by
    rintro ⟨d, hd, _⟩
    cases hd
  have hsize : Segment.blank.length ≤ noMoreDocs := by decide
  obtain ⟨x, hx⟩ := (Plan.atLeast_explainsOnly hsize 1 [.all]).explains noMoreDocs (.inr rfl)
  intro hrefused
  have herror := hrefused.mpr hnowhere
  rw [hx] at herror
  cases herror

end Catalogue
