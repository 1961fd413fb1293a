import Catalogue.Proofs.Index.AtLeast
import Catalogue.Proofs.Search.Reports

/-! # What a scorer announces

The context of a scorer hears nothing before the first score. Then it hears of the segment, once,
and of each scored document once, before the score is computed. A segment that cannot be entered is
the only thing heard of, and all its scores are zero. -/

namespace Catalogue

def announcedDocs (signals : List Signal) : List Nat :=
  signals.filterMap fun
    | .doc number => some number
    | _ => none

/-- The reports on scores in a segment that was entered. Every score is computed, after its
document was announced if none before was of the same document, and after the segment was if it is
the first. A failure costs no score but its own. -/
structure EnteredReports (segment : Segment) (weight : Float32) (reports : List Report) : Prop where
  each : ∀ before r after, reports = before ++ r :: after → ∃ result,
    r.signals = (if before.isEmpty then [.segment segment] else []) ++
      (if r.doc ∈ before.map Report.doc then [] else [.doc r.doc]) ++ [.evaluated result] ∧
    r.failure = errorOf? result ∧ r.score = weighed weight result
  increasing : (announcedDocs (reports.flatMap Report.signals)).Pairwise (· < ·)
  exact : ∀ doc, doc ∈ announcedDocs (reports.flatMap Report.signals) ↔ doc ∈ reports.map Report.doc

/-! ## Documents in the order they are scored -/

section

variable {c : Cursor}

/-- A cursor with fewer documents to come stands no earlier. -/
theorem Cursor.Ordered.doc_le_of_subset (h : c.Ordered) {next : Cursor}
    (hsubset : ∀ d ∈ next.docs, d ∈ c.docs) : c.doc ≤ next.doc := by
  by_cases hnext : next.doc = noMoreDocs
  · rw [hnext]
    by_cases hdoc : c.doc = noMoreDocs
    · omega
    · exact Nat.le_of_lt (h.bounded c.doc (doc_mem hdoc))
  · exact h.doc_le (hsubset next.doc (doc_mem hnext))

theorem Cursor.Ordered.scoredDocs_spec (h : c.Ordered) (calls : List ScorerCall) :
    (c.scoredDocs calls).Pairwise (· ≤ ·) ∧ ∀ d ∈ c.scoredDocs calls, c.doc ≤ d := by
  induction calls generalizing c with
  | nil => simp [scoredDocs]
  | cons call rest ih =>
      cases call with
      | advance =>
          obtain ⟨hsorted, hle⟩ := ih h.advance
          have hdoc : c.doc ≤ c.advance.doc := h.doc_le_of_subset fun d hd => by
            rw [docs_advance] at hd
            exact List.mem_of_mem_tail hd
          exact ⟨hsorted, fun d hd => Nat.le_trans hdoc (hle d hd)⟩
      | seek target =>
          obtain ⟨hsorted, hle⟩ := ih (h.seek target)
          have hdoc : c.doc ≤ (c.seek target).doc := h.doc_le_of_subset fun d hd => by
            rw [docs_seek] at hd
            exact (List.dropWhile_sublist _).subset hd
          exact ⟨hsorted, fun d hd => Nat.le_trans hdoc (hle d hd)⟩
      | score =>
          obtain ⟨hsorted, hle⟩ := ih h
          simp only [scoredDocs, List.pairwise_cons, List.mem_cons, forall_eq_or_imp]
          exact ⟨⟨hle, hsorted⟩, Nat.le_refl _, hle⟩

end

/-! ## What chained reports announce -/

section

variable {weight : Float32} {last : Option Nat} {reports : List Report}

theorem announcedDocs_append (signals others : List Signal) :
    announcedDocs (signals ++ others) = announcedDocs signals ++ announcedDocs others :=
  List.filterMap_append

theorem announcedDocs_docSignals (last : Option Nat) (doc : Nat)
    (result : Except ScoreError Float32) :
    announcedDocs (docSignals last doc ++ [.evaluated result]) =
      if last = some doc then [] else [doc] := by
  unfold docSignals
  split <;> rfl

/-- Among documents in order, one was announced before exactly if it was the last one. -/
theorem Chained.each (h : Chained weight last reports)
    (hsorted : (reports.map Report.doc).Pairwise (· ≤ ·))
    (hlast : ∀ l ∈ last, ∀ d ∈ reports.map Report.doc, l ≤ d) :
    ∀ before r after, reports = before ++ r :: after → ∃ result,
      r.signals = (if last = some r.doc ∨ r.doc ∈ before.map Report.doc then [] else [.doc r.doc]) ++
        [.evaluated result] ∧
      r.failure = errorOf? result ∧ r.score = weighed weight result := by
  induction h with
  | nil => intro before r after h; simp at h
  | @cons last doc result rest _ ih =>
      intro before r after hsplit
      rw [List.map_cons, List.pairwise_cons] at hsorted
      cases before with
      | nil =>
          cases hsplit
          exact ⟨result, by simp [docSignals], rfl, rfl⟩
      | cons first before =>
          obtain ⟨rfl, hrest⟩ := List.cons.inj hsplit
          have hdoc : ∀ d ∈ rest.map Report.doc, doc ≤ d := hsorted.1
          obtain ⟨result', hsignals, hfailure, hscore⟩ := ih hsorted.2
            (fun l hl d hd => Option.some.inj hl ▸ hdoc d hd) before r after hrest
          refine ⟨result', ?_, hfailure, hscore⟩
          have hle : doc ≤ r.doc := hdoc r.doc (by simp [hrest])
          have hiff : (some doc = some r.doc ∨ r.doc ∈ before.map Report.doc) ↔
              (last = some r.doc ∨ r.doc = doc ∨ r.doc ∈ before.map Report.doc) := by
            constructor
            · rintro (h | h)
              · exact .inr (.inl (Option.some.inj h).symm)
              · exact .inr (.inr h)
            · rintro (h | h | h)
              · have hge : r.doc ≤ doc := hlast r.doc h doc (by simp)
                exact .inl (by rw [Nat.le_antisymm hle hge])
              · exact .inl (by rw [h])
              · exact .inr h
          rw [hsignals]
          simp only [List.map_cons, List.mem_cons, hiff]

/-- Each document is announced once, in order, save the one that was announced last. -/
theorem Chained.announced (h : Chained weight last reports)
    (hsorted : (reports.map Report.doc).Pairwise (· ≤ ·))
    (hlast : ∀ l ∈ last, ∀ d ∈ reports.map Report.doc, l ≤ d) :
    (announcedDocs (reports.flatMap Report.signals)).Pairwise (· < ·) ∧
      ∀ d, d ∈ announcedDocs (reports.flatMap Report.signals) ↔
        d ∈ reports.map Report.doc ∧ last ≠ some d := by
  induction h with
  | nil => simp [announcedDocs]
  | @cons last doc result rest _ ih =>
      rw [List.map_cons, List.pairwise_cons] at hsorted
      obtain ⟨hincreasing, hexact⟩ := ih hsorted.2
        (fun l hl d hd => Option.some.inj hl ▸ hsorted.1 d hd)
      have hle : ∀ d ∈ rest.map Report.doc, doc ≤ d := hsorted.1
      have hless : ∀ d ∈ announcedDocs (rest.flatMap Report.signals), doc < d := by
        intro d hd
        obtain ⟨hmem, hne⟩ := (hexact d).mp hd
        have hdiff : doc ≠ d := fun h => hne (by rw [h])
        exact Nat.lt_of_le_of_ne (hle d hmem) hdiff
      rw [List.flatMap_cons, announcedDocs_append, announcedDocs_docSignals, List.map_cons]
      by_cases heq : last = some doc
      · rw [if_pos heq, List.nil_append]
        refine ⟨hincreasing, fun d => ?_⟩
        rw [hexact d, List.mem_cons, heq]
        constructor
        · rintro ⟨hmem, hne⟩
          exact ⟨.inr hmem, hne⟩
        · rintro ⟨rfl | hmem, hne⟩
          · exact absurd rfl hne
          · exact ⟨hmem, hne⟩
      · rw [if_neg heq, List.singleton_append]
        refine ⟨List.pairwise_cons.mpr ⟨hless, hincreasing⟩, fun d => ?_⟩
        rw [List.mem_cons, List.mem_cons]
        constructor
        · rintro (rfl | hmem)
          · exact ⟨.inl rfl, heq⟩
          · refine ⟨.inr ((hexact d).mp hmem).1, fun h => ?_⟩
            have hge : d ≤ doc := hlast d h doc (by simp)
            have hlt := hless d hmem
            omega
        · rintro ⟨rfl | hmem, _⟩
          · exact .inl rfl
          · by_cases hdoc : doc = d
            · exact .inl hdoc.symm
            · exact .inr ((hexact d).mpr ⟨hmem, fun h => hdoc (Option.some.inj h)⟩)

end

/-! ## The protocol -/

/-- The reports of a chain, the first of which announces the segment too. -/
theorem Chained.entered {segment : Segment} {weight : Float32} {first : Report}
    {rest : List Report} (h : Chained weight none (first :: rest))
    (hsorted : ((first :: rest).map Report.doc).Pairwise (· ≤ ·)) :
    EnteredReports segment weight
      ({ first with signals := .segment segment :: first.signals } :: rest) := by
  have hnone : ∀ l ∈ (none : Option Nat), ∀ d ∈ (first :: rest).map Report.doc, l ≤ d := by simp
  obtain ⟨hincreasing, hexact⟩ := h.announced hsorted hnone
  have hsame : announcedDocs (({ first with signals := .segment segment :: first.signals } ::
      rest).flatMap Report.signals) = announcedDocs ((first :: rest).flatMap Report.signals) := rfl
  refine ⟨?_, hsame ▸ hincreasing, fun d => ?_⟩
  · intro before r after hsplit
    cases before with
    | nil =>
        obtain ⟨rfl, rfl⟩ := List.cons.inj hsplit
        obtain ⟨result, hsignals, hfailure, hscore⟩ := h.each hsorted hnone [] first rest rfl
        refine ⟨result, ?_, hfailure, hscore⟩
        simpa using hsignals
    | cons other before =>
        obtain ⟨rfl, rfl⟩ := List.cons.inj hsplit
        obtain ⟨result, hsignals, hfailure, hscore⟩ :=
          h.each hsorted hnone (first :: before) r after rfl
        refine ⟨result, ?_, hfailure, hscore⟩
        simpa using hsignals
  · rw [hsame, hexact d]
    simp

/-- Whatever a scorer of a segment is told to do, its context and its score function are asked for
what the reports on its scores say and for nothing else, in that order, and the scores and the
failure that is kept are as the reports say. If the segment cannot be entered, that is heard of at
the first score and nothing is heard of later; otherwise every scored document is announced once,
before its first score is computed. -/
theorem scores_follow_protocol {σ : Type} (q : ComputedQuery σ) {cursor : Cursor}
    (hcursor : cursor.Ordered) (segment : Segment) (weight : Float32) (calls : List ScorerCall)
    (s : SearchState σ) :
    let c : ComputedScorer := ⟨cursor, segment, .pending, none, weight⟩
    let reports := (q.reports calls c s.world).1
    q.perform calls c s = (reports.map Report.score,
      ⟨(q.reports calls c s.world).2, s.failure.or (recorded? reports)⟩) ∧
    (q.observed.perform calls c ⟨(s.world, []), s.failure⟩).2.world =
      ((q.perform calls c s).2.world, reports.flatMap Report.signals) ∧
    reports.map Report.doc = cursor.scoredDocs calls ∧
    match (q.context.onSegment segment s.world).1 with
    | .error e => reports = refusedReports segment e (cursor.scoredDocs calls)
    | .ok _ => EnteredReports segment weight reports := by
  intro c reports
  have hperform := perform_eq_reports q calls c s
  have hdocs : reports.map Report.doc = cursor.scoredDocs calls := reports_docs q calls c s.world
  refine ⟨hperform, ?_, hdocs, ?_⟩
  · rw [perform_observed, hperform]
    rfl
  · cases he : (q.context.onSegment segment s.world).1 with
    | error e => exact reports_refused q (c := c) rfl he calls
    | ok _ =>
        rcases reports_entered q (c := c) rfl he calls with hnil | ⟨first, rest, hchained, hreports⟩
        · have hempty : reports = [] := hnil
          rw [hempty]
          exact ⟨by simp, .nil, by simp [announcedDocs]⟩
        · have hsplit : reports =
              { first with signals := .segment segment :: first.signals } :: rest := hreports
          have hsorted : (reports.map Report.doc).Pairwise (· ≤ ·) := by
            rw [hdocs]
            exact (hcursor.scoredDocs_spec calls).1
          rw [hsplit] at hsorted ⊢
          exact hchained.entered hsorted

/-- A query over all documents, whose context has a part inside another one that no segment can
enter. -/
def ComputedQuery.brokenInside : ComputedQuery Unit where
  plan := .all
  boost := 1.0
  context := .all [.leaf ⟨fun _ s => (.ok (), s), fun _ s => s⟩,
    .all [.leaf ⟨fun _ s => (.error (.store "broken"), s), fun _ s => s⟩]]
  score := pure 3.0

theorem scores_of_brokenInside :
    (Cursor.ofDocs [0, 2, 5] 1.0).Ordered ∧
    ComputedQuery.brokenInside.perform [.score, .advance, .score, .score, .seek 4, .score]
      ⟨.ofDocs [0, 2, 5] 1.0, [], .pending, none, 1.0⟩ ⟨(), none⟩ =
        ([0.0, 0.0, 0.0, 0.0], ⟨(), some (.store "broken")⟩) := by
  have hordered : (Cursor.ofDocs [0, 2, 5] 1.0).Ordered := ⟨by simp, by simp [noMoreDocs]⟩
  obtain ⟨hperform, _, _, hreports⟩ := scores_follow_protocol ComputedQuery.brokenInside hordered []
    1.0 [.score, .advance, .score, .score, .seek 4, .score] ⟨(), none⟩
  refine ⟨hordered, hperform.trans ?_⟩
  rw [hreports]
  rfl

end Catalogue
