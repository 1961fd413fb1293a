import Catalogue.Proofs.Float.Product
import Catalogue.Proofs.Outcome
import Catalogue.Proofs.Plan.Refusal

/-! # Scores of documents that enough plans match

The parts that stand on the current document are the plans that match it, whatever moves led there.
So its score is the sum of their scores, and so is what an explanation gives. An explanation lists
the same plans, each with a fresh cursor. What it says of a plan is that plan's score, but for the
order in which boosts are multiplied: a score starts with the outermost one, an explanation with
the innermost one. -/

namespace Catalogue

def total (scores : List Float32) : Float32 := scores.foldl (· + ·) (-0.0)

/-! ## What the parts add -/

namespace Cursor

variable {c : Cursor} {doc : Nat}

theorem scoreOf?_eq_none_iff : c.scoreOf? doc = none ↔ doc ∉ c.docs := by
  rw [← scoreOf?_isSome_iff, Bool.not_eq_true, Option.isSome_eq_false_iff, Option.isNone_iff_eq_none]

/-- The score of a document is that of the cursor once it stands there. -/
theorem Ordered.scoreOf?_eq (h : c.Ordered) (hdoc : doc ∈ c.docs) :
    c.scoreOf? doc = some (c.seek doc).score := by
  obtain ⟨entries, atEnd, hint⟩ := c
  have hinc := h.increasing
  simp only [docs] at hinc hdoc
  clear h
  change entries.lookup doc = some (score ⟨entries.dropWhile _, atEnd, hint⟩)
  induction entries with
  | nil => cases hdoc
  | cons e rest ih =>
      obtain ⟨d, x⟩ := e
      obtain ⟨hlt, hrest⟩ := List.pairwise_cons.mp hinc
      rcases List.mem_cons.mp hdoc with rfl | hdoc
      · simp [score]
      · have hd : d < doc := hlt doc hdoc
        have hne : (doc == d) = false := beq_eq_false_iff_ne.mpr (by omega)
        simp only [List.lookup_cons, hne, List.dropWhile_cons, hd, decide_true, ↓reduceIte]
        exact ih hdoc hrest

/-- What a cursor adds where it is sought: its score if it arrives, and else nothing. -/
theorem Ordered.scoreOf?_eq_seek (h : c.Ordered) (hdoc : doc ≠ noMoreDocs) :
    c.scoreOf? doc = if (c.seek doc).doc = doc then some (c.seek doc).score else none := by
  by_cases hmem : doc ∈ c.docs
  · rw [if_pos (h.doc_seek_eq_iff.mpr (.inl hmem)), h.scoreOf?_eq hmem]
  · rw [if_neg fun harrives => (h.doc_seek_eq_iff.mp harrives).elim hmem hdoc]
    exact scoreOf?_eq_none_iff.mpr hmem

end Cursor

namespace AtLeast

variable {minimum : Nat} {parts : List Cursor} {a : AtLeast}

/-- On a document the score is the sum of what the parts have for it, in order. -/
theorem Placed.score_eq (h : Placed minimum parts a) (ordered : ∀ p ∈ parts, p.Ordered)
    (hdoc : a.doc ≠ noMoreDocs) : a.score = total (parts.filterMap (·.scoreOf? a.doc)) := by
  rw [score, h.parts_eq]
  refine congrArg total ?_
  clear h
  induction parts with
  | nil => rfl
  | cons p rest ih =>
      have hrest := ih fun q hq => ordered q (List.mem_cons_of_mem p hq)
      rw [List.map_cons, List.filterMap_cons, (ordered p List.mem_cons_self).scoreOf?_eq_seek hdoc,
        ← hrest, List.filter_cons]
      by_cases harrives : (p.seek a.doc).doc = a.doc <;> simp [harrives]

variable (ordered : ∀ p ∈ parts, p.Ordered) (hmin : 1 ≤ minimum)
include ordered hmin

/-- Wherever moves lead, enough parts have the document, unless it is behind all of them. -/
theorem aligned_moves (ms : List Move) :
    Placed minimum parts ((aligned minimum parts).moves ms) ∧
      (minimum ≤ sharing ((aligned minimum parts).moves ms).doc parts ∨
        ((aligned minimum parts).moves ms).doc = noMoreDocs) := by
  obtain ⟨hplaced, hlands⟩ := aligned_lands ordered hmin
  have hshared := hlands.shared_or
  generalize aligned minimum parts = a at hplaced hshared
  induction ms generalizing a with
  | nil => exact ⟨hplaced, hshared⟩
  | cons m rest ih =>
      obtain ⟨hnext, hstays | ⟨_, hled⟩⟩ := hplaced.move ordered hmin m
      · exact ih _ hnext (hstays.symm ▸ hshared)
      · exact ih _ hnext hled.shared_or

/-- Every step of a walk is on a document, with its score. -/
theorem Placed.walk_scores (h : Placed minimum parts a) {steps : Nat} :
    ∀ e ∈ a.walk steps, e.2 = total (parts.filterMap (·.scoreOf? e.1)) := by
  induction steps generalizing a with
  | zero => exact fun e he => absurd he List.not_mem_nil
  | succ steps ih =>
      intro e he
      rw [walk] at he
      by_cases hdoc : a.doc = noMoreDocs
      · rw [if_pos hdoc] at he
        cases he
      · rw [if_neg hdoc] at he
        rcases List.mem_cons.mp he with rfl | he
        · exact h.score_eq ordered hdoc
        · exact ih (h.advance ordered hmin).1 e he

/-- The score that is explained is the sum of what the parts have for the document. -/
theorem sharedScoreAt_eq {doc : Nat} {x : Float32} (hdoc : doc ≠ noMoreDocs)
    (h : sharedScoreAt minimum parts doc = .ok x) :
    x = total (parts.filterMap (·.scoreOf? doc)) := by
  unfold sharedScoreAt at h
  split at h
  · unfold Cursor.scoreAt at h
    split at h
    · rename_i harrives
      rw [Bool.and_eq_true, decide_eq_true_iff, decide_eq_true_iff] at harrives
      exact absurd harrives.2.symm hdoc
    · cases h
  · simp only at h
    split at h
    · rename_i harrives
      rw [Bool.and_eq_true, decide_eq_true_iff, decide_eq_true_iff] at harrives
      obtain ⟨hplaced, _⟩ := aligned_moves ordered hmin [.seek doc]
      have hon : ((aligned minimum parts).moves [.seek doc]).doc = doc := harrives.2
      have hscore := hplaced.score_eq ordered (hon.symm ▸ hdoc)
      rw [hon] at hscore
      exact (Except.ok.inj h).symm.trans hscore
    · cases h

end AtLeast

/-! ## Plans that score all matches alike -/

namespace Plan

/-- Plans that match all documents or give them a constant score, also under boosts. -/
inductive Uniform : Plan → Prop
  | all : Uniform .all
  | constant {plan : Plan} {score : Float32} : Uniform (.constant plan score)
  | boost {plan : Plan} {factor : Float32} : Uniform plan → Uniform (.boost plan factor)

/-- What the score of such a plan is multiplied from: its boosts, the outermost first, and last its
constant. -/
def factors : Plan → List Float32
  | .constant _ score => [score]
  | .boost plan factor => factor :: plan.factors
  | _ => []

/-- The product of a plan's factors under a boost, as its matches are scored: from the outside
inwards. -/
def product (boost : Float32) (p : Plan) : Float32 := p.factors.foldl (· * ·) boost

/-- The product of a plan's factors as it is explained: from the inside outwards. -/
def productExplained (p : Plan) : Float32 := p.factors.reverse.foldl (· * ·) 1.0

/-- The products of two factors, or fewer, are the same. -/
theorem product_eq_explained {p : Plan} (h : p.factors.length ≤ 2) :
    p.product 1.0 = p.productExplained := by
  unfold product productExplained
  match hfactors : p.factors, h with
  | [], _ => rfl
  | [_], _ => rfl
  | [x, y], _ =>
      calc 1.0 * x * y = x * y := by rw [score_one_mul]
        _ = y * x := score_mul_comm x y
        _ = 1.0 * y * x := by rw [score_one_mul]

variable {s : Segment} {p : Plan}

theorem Uniform.cursor_score (h : p.Uniform) (boost : Float32) :
    ∀ e ∈ (p.cursor s boost).entries, e.2 = p.product boost := by
  induction h generalizing boost with
  | all =>
      intro e he
      obtain ⟨d, _, rfl⟩ := List.mem_map.mp he
      rfl
  | constant =>
      intro e he
      obtain ⟨d, _, rfl⟩ := List.mem_map.mp he
      rfl
  | boost _ ih => exact ih _

end Plan

/-- Of a document that it matches, such a plan has the product as score. -/
theorem scoreOf?_of_uniform {s : Segment} {p : Plan} (h : p.Uniform) (hs : s.length ≤ noMoreDocs)
    (boost : Float32) {doc : Nat} {d : Document} (hd : s[doc]? = some d) :
    (p.cursor s boost).scoreOf? doc = if p.holds d then some (p.product boost) else none := by
  have hsome := (p.cursor_finds hs boost).scoreOf?_isSome hd
  rw [← hsome]
  cases hscore : (p.cursor s boost).scoreOf? doc with
  | none => rfl
  | some x =>
      obtain ⟨before, after, hentries, _⟩ := List.lookup_eq_some_iff.mp hscore
      have hmem : (doc, x) ∈ (p.cursor s boost).entries := by
        rw [hentries]
        exact List.mem_append_right before List.mem_cons_self
      exact congrArg some (h.cursor_score boost _ hmem)

def plansFor (plans : List Plan) (d : Document) : List Plan := plans.filter (·.holds d)

section

variable {s : Segment} {plans : List Plan}

theorem scoresOf_eq (hs : s.length ≤ noMoreDocs) (uniform : ∀ p ∈ plans, p.Uniform)
    (boost : Float32) {doc : Nat} {d : Document} (hd : s[doc]? = some d) :
    (allCursors s boost plans).filterMap (·.scoreOf? doc) =
      (plansFor plans d).map (Plan.product boost) := by
  induction plans with
  | nil => rfl
  | cons p rest ih =>
      have hrest := ih fun q hq => uniform q (List.mem_cons_of_mem p hq)
      rw [allCursors, List.filterMap_cons,
        scoreOf?_of_uniform (uniform p List.mem_cons_self) hs boost hd, hrest, plansFor, plansFor,
        List.filter_cons]
      cases p.holds d <;> simp

/-! ## What an explanation lists -/

theorem explainAll_eq_map (s : Segment) (doc : Nat) (plans : List Plan) :
    explainAll s doc plans = plans.map (·.explain s doc) := by
  induction plans with
  | nil => rfl
  | cons p rest ih => rw [explainAll, ih, List.map_cons]

/-- The explanations of parts are those of the plans that match, in order. -/
theorem map_explain_plansFor (hs : s.length ≤ noMoreDocs) {doc : Nat} {d : Document}
    (hd : s[doc]? = some d) :
    (plansFor plans d).map (·.explain s doc) = (matching (explainAll s doc plans)).map .ok := by
  have hdoc := ne_noMoreDocs_of_getElem? hs hd
  rw [explainAll_eq_map]
  induction plans with
  | nil => rfl
  | cons p rest ih =>
      rw [plansFor, matching] at ih ⊢
      rw [List.filter_cons, List.map_cons, List.filterMap_cons]
      rcases p.explain_decides hs hdoc with ⟨⟨d', hd', hholds⟩, e, he⟩ | ⟨hmisses, he⟩
      · obtain rfl := Option.some.inj (hd'.symm.trans hd)
        rw [if_pos hholds, he, List.map_cons, List.map_cons, ih, he]
      · rw [if_neg fun hholds => hmisses ⟨d, hd, hholds⟩, he]
        exact ih

/-- A plan that scores all matches alike is explained by the product of its factors. -/
theorem Plan.Uniform.explain_value {p : Plan} (h : p.Uniform) {doc : Nat} {e : Explanation}
    (he : p.explain s doc = .ok e) : e.value = p.productExplained := by
  induction h generalizing e with
  | all =>
      unfold explain at he
      split at he
      · cases he
      · cases he
        rfl
  | @constant inner score =>
      unfold explain at he
      obtain ⟨_, _, he⟩ := bind_eq_ok_iff.mp he
      obtain ⟨_, _, he⟩ := bind_eq_ok_iff.mp he
      cases he
      exact (score_one_mul score).symm
  | @boost inner factor _ ih =>
      unfold explain at he
      obtain ⟨x, hx, he⟩ := bind_eq_ok_iff.mp he
      cases he
      have hinner := ih hx
      rw [productExplained] at hinner ⊢
      rw [factors, List.reverse_cons, List.foldl_append, ← hinner]
      rfl

theorem values_of_explained {doc : Nat} (uniform : ∀ p ∈ plans, p.Uniform) {es : List Explanation}
    (h : plans.map (·.explain s doc) = es.map .ok) :
    es.map Explanation.value = plans.map Plan.productExplained := by
  induction plans generalizing es with
  | nil => rw [List.map_eq_nil_iff.mp h.symm, List.map_nil, List.map_nil]
  | cons p rest ih =>
      obtain ⟨e, more, rfl, he, hmore⟩ := List.map_eq_cons_iff.mp h.symm
      have hrest := ih (fun q hq => uniform q (List.mem_cons_of_mem p hq)) hmore.symm
      have hvalue := (uniform p List.mem_cons_self).explain_value he.symm
      rw [List.map_cons, List.map_cons, hvalue, hrest]

/-! ## The sum -/

/-- An explanation of a document's score under plans of which enough match it. Its details are the
explanations of those that match, in order, each with the product of its factors; its value is the
sum of their scores, which are the products taken the other way round. Where the way round does
not matter, it is the sum of the details too. -/
structure ExplainsTotal (s : Segment) (plans : List Plan) (doc : Nat) (d : Document)
    (e : Explanation) : Prop where
  details : (plansFor plans d).map (·.explain s doc) = e.details.map .ok
  values : e.details.map Explanation.value = (plansFor plans d).map Plan.productExplained
  value : e.value = total ((plansFor plans d).map (Plan.product 1.0))
  sums : (∀ p ∈ plansFor plans d, p.product 1.0 = p.productExplained) →
    e.value = total (e.details.map Explanation.value)

/-- Documents that enough plans match have the sum of the scores of those plans: wherever moves have
led, for all that a search collects, and in an explanation. -/
structure SumsMatches (s : Segment) (minimum : Nat) (plans : List Plan) : Prop where
  moved : ∀ boost ms, let a := (AtLeast.aligned (max 1 minimum) (allCursors s boost plans)).moves ms
    a.doc ≠ noMoreDocs → ∃ d, s[a.doc]? = some d ∧ (Plan.atLeast minimum plans).holds d = true ∧
      a.score = total ((plansFor plans d).map (Plan.product boost))
  collected : ∀ boost, ∀ e ∈ ((Plan.atLeast minimum plans).cursor s boost).entries,
    ∃ d, s[e.1]? = some d ∧ (Plan.atLeast minimum plans).holds d = true ∧
      e.2 = total ((plansFor plans d).map (Plan.product boost))
  explained : ∀ doc d, s[doc]? = some d → (Plan.atLeast minimum plans).holds d = true →
    ∃ e, (Plan.atLeast minimum plans).explain s doc = .ok e ∧ ExplainsTotal s plans doc d e

theorem mem_cursor_sharing (hs : s.length ≤ noMoreDocs) {boost : Float32} {minimum : Nat}
    {e : Nat × Float32} (he : e ∈ ((Plan.atLeast minimum plans).cursor s boost).entries) :
    e.2 = total ((allCursors s boost plans).filterMap (·.scoreOf? e.1)) := by
  rw [Plan.cursor, sharedCursor] at he
  split at he
  · cases he
  · have hordered := allCursors_ordered hs boost plans
    have hmin := Nat.le_max_left 1 minimum
    exact (AtLeast.aligned_lands hordered hmin).1.walk_scores hordered hmin e he

theorem explain_total (hs : s.length ≤ noMoreDocs) (uniform : ∀ p ∈ plans, p.Uniform)
    {minimum doc : Nat} {d : Document} (hd : s[doc]? = some d)
    (hholds : (Plan.atLeast minimum plans).holds d = true) :
    ∃ e, (Plan.atLeast minimum plans).explain s doc = .ok e ∧ ExplainsTotal s plans doc d e := by
  have hdoc := ne_noMoreDocs_of_getElem? hs hd
  obtain ⟨e, he⟩ := (Plan.atLeast_explainsOnly hs minimum plans).explains doc
    (.inl ⟨d, hd, hholds⟩)
  have hexplained := he
  unfold Plan.explain at hexplained
  obtain ⟨x, hx, hmade⟩ := bind_eq_ok_iff.mp hexplained
  cases hmade
  have hdetails : (plansFor plans d).map (·.explain s doc) =
      (matching (explainAll s doc plans)).map .ok := map_explain_plansFor hs hd
  have hvalue := AtLeast.sharedScoreAt_eq (allCursors_ordered hs 1.0 plans)
    (Nat.le_max_left 1 minimum) hdoc hx
  rw [scoresOf_eq hs uniform 1.0 hd] at hvalue
  have hvalues : (matching (explainAll s doc plans)).map Explanation.value =
      (plansFor plans d).map Plan.productExplained :=
    values_of_explained (fun p hp => uniform p (List.mem_filter.mp hp).1) hdetails
  refine ⟨_, he, hdetails, hvalues, hvalue, fun hsame => ?_⟩
  change x = total ((matching (explainAll s doc plans)).map Explanation.value)
  rw [hvalue, hvalues, List.map_congr_left hsame]

end

/-- Of a document that enough plans match, each by a constant score, by matching all documents, or
by boosts over these, the score is the sum of the scores of exactly the plans that match it, in
order, after any moves and under any boost. Every such document is explained, with that sum under no
boost as value and one detail for each plan that matches. The details have the same sum if the way
round that boosts are multiplied does not matter, as with two factors or fewer. -/
theorem atLeast_sumsMatches {s : Segment} (hs : s.length ≤ noMoreDocs) {plans : List Plan}
    (uniform : ∀ p ∈ plans, p.Uniform) (minimum : Nat) :
    SumsMatches s minimum plans ∧
      ∀ p : Plan, p.factors.length ≤ 2 → p.product 1.0 = p.productExplained := by
  have hmin := Nat.le_max_left 1 minimum
  refine ⟨⟨fun boost ms => ?_, fun boost e he => ?_, fun doc d => explain_total hs uniform⟩,
    fun p => Plan.product_eq_explained⟩
  · have hordered := allCursors_ordered hs boost plans
    obtain ⟨hplaced, hshared⟩ := AtLeast.aligned_moves hordered hmin ms
    intro a hdoc
    obtain ⟨d, hd, hholds⟩ := (sharing_allCursors_iff hs boost minimum plans a.doc).mp
      (hshared.resolve_right hdoc)
    refine ⟨d, hd, hholds, ?_⟩
    rw [hplaced.score_eq hordered hdoc, scoresOf_eq hs uniform boost hd]
  · have hmem : e.1 ∈ ((Plan.atLeast minimum plans).cursor s boost).docs :=
      List.mem_map_of_mem he
    obtain ⟨d, hd, hholds⟩ :=
      (((Plan.atLeast minimum plans).cursor_finds hs boost).exact e.1).mp hmem
    refine ⟨d, hd, hholds, ?_⟩
    rw [mem_cursor_sharing hs he, scoresOf_eq hs uniform boost hd]

theorem explain_bothOfTwo : ∃ e,
    (Plan.atLeast 2 [.constant .all 2.0, .boost .all 3.0]).explain .blank 0 = .ok e ∧
      e.value = 5.0 ∧ e.value = total (e.details.map Explanation.value) := by
  have hsize : Segment.blank.length ≤ noMoreDocs := by decide
  have huniform : ∀ p ∈ [Plan.constant .all 2.0, .boost .all 3.0], p.Uniform := by
    intro p hp
    rcases List.mem_cons.mp hp with rfl | hp
    · exact .constant
    · obtain rfl := List.mem_singleton.mp hp
      exact .boost .all
  obtain ⟨hsums, hshort⟩ := atLeast_sumsMatches hsize huniform 2
  obtain ⟨e, he, hexplains⟩ := hsums.explained 0 _ rfl (by decide)
  refine ⟨e, he, hexplains.value.trans (by decide), hexplains.sums fun p hp => hshort p ?_⟩
  exact (by decide : ∀ p ∈ [Plan.constant .all 2.0, .boost .all 3.0], p.factors.length ≤ 2) p
    (List.mem_filter.mp hp).1

def Plan.boostedTwice : Plan := .boost (.boost (.constant .all 0.1) 0.3) 0.7

/-- Of three factors the product depends on the way round: the detail is not the whole score. -/
theorem explain_boostedTwice : ∃ e, (Plan.atLeast 1 [.boostedTwice]).explain .blank 0 = .ok e ∧
    e.value ≠ total (e.details.map Explanation.value) := by
  have hsize : Segment.blank.length ≤ noMoreDocs := by decide
  have huniform : ∀ p ∈ [Plan.boostedTwice], p.Uniform := by
    intro p hp
    obtain rfl := List.mem_singleton.mp hp
    exact .boost (.boost .constant)
  have hbook : Segment.blank[0]? = some ⟨fieldValues [] [], fun _ => []⟩ := rfl
  have hholds : (Plan.atLeast 1 [.boostedTwice]).holds ⟨fieldValues [] [], fun _ => []⟩ = true := by
    decide
  obtain ⟨e, he, hexplains⟩ := explain_total hsize huniform hbook hholds
  refine ⟨e, he, ?_⟩
  rw [hexplains.value, hexplains.values]
  decide

end Catalogue
