import Catalogue.Proofs.Search.Reports
import Catalogue.Search.Pool
import Mathlib.Data.List.DropRight

/-! # The first failure of a family of queries

Queries are created, copied and rewritten, scorers are opened from them, and all are used in any
order. Those that descend from one query are a family. Taking the failure of any member gives the
first one among the scores of the whole family since it was last taken, and explanations have no
part in it. -/

namespace Catalogue

/-- What is done with queries and scorers, which are known by their numbers. -/
inductive PoolCall (σ : Type) where
  | create (q : ComputedQuery σ)
  | clone (query : Nat)
  | rewrite (query : Nat) (replace : Plan → Option Plan)
  | withBoost (query : Nat) (boost : Float32)
  | openScorer (query : Nat) (segment : Segment) (boost : Float32)
  | advance (scorer : Nat)
  | seek (scorer target : Nat)
  | score (scorer : Nat)
  | explain (query : Nat) (segment : Segment) (doc : Nat)
  | takeFailure (query : Nat)

/-- How many queries were created, and which of these each query and each scorer descends from. -/
structure Lineage where
  created : Nat
  queries : List Nat
  scorers : List Nat

def Lineage.start : Lineage := ⟨0, [], []⟩

def Lineage.after {σ : Type} (l : Lineage) : PoolCall σ → Lineage
  | .create _ => ⟨l.created + 1, l.queries ++ [l.created], l.scorers⟩
  | .clone query | .rewrite query _ | .withBoost query _ =>
    { l with queries := l.queries ++ l.queries[query]?.toList }
  | .openScorer query _ _ => { l with scorers := l.scorers ++ l.queries[query]?.toList }
  | .advance _ | .seek _ _ | .score _ | .explain _ _ _ | .takeFailure _ => l

def Lineage.afterAll {σ : Type} (l : Lineage) (calls : List (PoolCall σ)) : Lineage :=
  calls.foldl Lineage.after l

/-- Something that happens in a family: a score with its failure, if it failed, an explanation, or
that the failure is taken. -/
inductive Deed where
  | scored (family : Nat) (failure : Option ScoreError)
  | explained (family : Nat)
  | took (family : Nat)

def Deed.takes (family : Nat) : Deed → Bool
  | took f => f = family
  | scored _ _ | explained _ => false

def Deed.failure? (family : Nat) : Deed → Option ScoreError
  | scored f failure => if f = family then failure else none
  | explained _ | took _ => none

/-- The first failure among the scores of a family since its failure was last taken. -/
def firstFailureSince (family : Nat) (past : List Deed) : Option ScoreError :=
  (past.rtakeWhile fun d => !d.takes family).findSome? (Deed.failure? family)

/-- How the score of the current document fails, if it does: where its segment is still to be
entered and cannot be, or where the score function fails. In a segment that could not be entered
before, nothing fails any more. -/
def ComputedQuery.failure? {σ : Type} (q : ComputedQuery σ) (c : ComputedScorer) (world : σ) :
    Option ScoreError :=
  match c.stage with
  | .failed => none
  | .entered => errorOf? (q.visit c.lastDoc c.cursor.doc world).1
  | .pending =>
    match q.context.onSegment c.segment world with
    | (.error e, _) => some e
    | (.ok _, world) => errorOf? (q.visit c.lastDoc c.cursor.doc world).1

namespace Pool

variable {σ : Type}

def perform (p : Pool σ) : PoolCall σ → Pool σ
  | .create q => p.create q
  | .clone query => p.clone query
  | .rewrite query replace => p.rewrite query replace
  | .withBoost query boost => p.withBoost query boost
  | .openScorer query segment boost => p.openScorer query segment boost
  | .advance scorer => p.advance scorer
  | .seek scorer target => p.seek scorer target
  | .score scorer => (p.score scorer).2
  | .explain query segment doc => (p.explain query segment doc).2
  | .takeFailure query => (p.takeFailure query).2

def performAll (p : Pool σ) (calls : List (PoolCall σ)) : Pool σ := calls.foldl perform p

/-- What happens at a call that is a score, an explanation or the taking of a failure. -/
def deed? (p : Pool σ) (l : Lineage) : PoolCall σ → Option Deed
  | .score scorer => do
    let family ← l.scorers[scorer]?
    let c ← p.scorers[scorer]?
    return .scored family (c.item.query.failure? c.item.scorer p.world)
  | .explain query _ _ => l.queries[query]?.map .explained
  | .takeFailure query => l.queries[query]?.map .took
  | _ => none

def deeds : Pool σ → Lineage → List (PoolCall σ) → List Deed
  | _, _, [] => []
  | p, l, call :: rest => (p.deed? l call).toList ++ deeds (p.perform call) (l.after call) rest

end Pool

/-! ## One score, one explanation -/

section

variable {σ : Type} (q : ComputedQuery σ)

/-- A score records its failure, unless there was one before. -/
theorem scoreCurrent_failure (c : ComputedScorer) (s : SearchState σ) :
    (q.scoreCurrent c s).2.2.failure = s.failure.or (q.failure? c s.world) := by
  unfold ComputedQuery.failure?
  cases h : c.stage with
  | failed => rw [scoreCurrent_failed q h, Option.or_none]
  | entered => rw [scoreCurrent_entered q h]
  | pending =>
      rcases hr : q.context.onSegment c.segment s.world with ⟨_ | _, world⟩
      · rw [scoreCurrent_refused q h (congrArg Prod.fst hr)]
      · rw [scoreCurrent_first q h (congrArg Prod.fst hr), scoreCurrent_entered q rfl, hr]

theorem OpenScorer.score_failure (c : OpenScorer σ) (s : SearchState σ) :
    (c.score s).2.failure = s.failure.or (c.query.failure? c.scorer s.world) :=
  scoreCurrent_failure c.query c.scorer s

/-- An explanation neither records a failure nor takes one, whether it fails or not. -/
theorem explain_failure (segment : Segment) (doc : Nat) (s : SearchState σ) :
    (q.explain segment doc s).2.failure = s.failure := by
  unfold ComputedQuery.explain
  split
  · rfl
  · split
    · rfl
    · rename_i world _
      have hcomputed : (q.compute { s with world := q.context.onDoc doc world }).2.failure =
          s.failure := rfl
      dsimp only
      split <;> rename_i hresult <;> exact (congrArg (·.2.failure) hresult).symm.trans hcomputed

end

/-! ## Since the failure was taken -/

section

variable {past : List Deed} {family : Nat}

theorem firstFailureSince_concat (family : Nat) (past : List Deed) (d : Deed) :
    firstFailureSince family (past ++ [d]) =
      if d.takes family then none else (firstFailureSince family past).or (d.failure? family) := by
  unfold firstFailureSince
  rw [List.rtakeWhile_concat]
  cases d.takes family
  · simp only [Bool.not_false, if_true, List.findSome?_append, List.findSome?_singleton]
    rfl
  · rfl

theorem firstFailureSince_scored (f : Nat) (failure : Option ScoreError) :
    firstFailureSince family (past ++ [.scored f failure]) =
      if f = family then (firstFailureSince family past).or failure
      else firstFailureSince family past := by
  rw [firstFailureSince_concat, Deed.takes, if_neg Bool.false_ne_true, Deed.failure?]
  split
  · rfl
  · rw [Option.or_none]

theorem firstFailureSince_explained (f : Nat) :
    firstFailureSince family (past ++ [.explained f]) = firstFailureSince family past := by
  rw [firstFailureSince_concat, Deed.takes, if_neg Bool.false_ne_true, Deed.failure?,
    Option.or_none]

theorem firstFailureSince_took (f : Nat) :
    firstFailureSince family (past ++ [.took f]) =
      if f = family then none else firstFailureSince family past := by
  rw [firstFailureSince_concat, Deed.takes, Deed.failure?, Option.or_none]
  simp only [decide_eq_true_eq]

end

/-! ## Slots are kept by families -/

/-- The slots are those of the families: what descends from a query has its slot, and that holds the
first failure since it was taken. -/
structure Pool.Agrees {σ : Type} (p : Pool σ) (l : Lineage) (past : List Deed) : Prop where
  created : p.slots.length = l.created
  queries : p.queries.map Held.slot = l.queries
  scorers : p.scorers.map Held.slot = l.scorers
  queries_lt : ∀ family ∈ l.queries, family < l.created
  scorers_lt : ∀ family ∈ l.scorers, family < l.created
  slots : ∀ family, p.slots[family]?.getD none = firstFailureSince family past

namespace Pool

variable {σ : Type} {p : Pool σ} {l : Lineage} {past : List Deed}

theorem agrees_start (world : σ) : (Pool.start world).Agrees .start [] :=
  ⟨rfl, rfl, rfl, List.forall_mem_nil _, List.forall_mem_nil _, fun _ => rfl⟩

/-! ### Queries and scorers that are added -/

theorem Agrees.slot? (h : p.Agrees l past) (query : Nat) :
    l.queries[query]? = p.queries[query]?.map Held.slot := by
  rw [← h.queries, List.getElem?_map]

theorem Agrees.scorerSlot? (h : p.Agrees l past) (scorer : Nat) :
    l.scorers[scorer]? = p.scorers[scorer]?.map Held.slot := by
  rw [← h.scorers, List.getElem?_map]

theorem Agrees.create (h : p.Agrees l past) (q : ComputedQuery σ) :
    (p.create q).Agrees ⟨l.created + 1, l.queries ++ [l.created], l.scorers⟩ past where
  created := by rw [Pool.create, List.length_append, h.created]; rfl
  queries := by rw [Pool.create, List.map_append, h.queries, List.map_singleton, h.created]
  scorers := h.scorers
  queries_lt family hfamily := by
    rcases List.mem_append.mp hfamily with hfamily | hfamily
    · exact Nat.lt_succ_of_lt (h.queries_lt family hfamily)
    · rw [List.mem_singleton.mp hfamily]
      exact Nat.lt_succ_self l.created
  scorers_lt family hfamily := Nat.lt_succ_of_lt (h.scorers_lt family hfamily)
  slots family := by
    rw [← h.slots family, Pool.create]
    by_cases hlt : family < p.slots.length
    · rw [List.getElem?_append_left hlt]
    · rw [List.getElem?_append_right (Nat.le_of_not_lt hlt),
        List.getElem?_eq_none (Nat.le_of_not_lt hlt)]
      cases family - p.slots.length <;> rfl

/-- The slot of a query is that of a family. -/
theorem Agrees.slot_lt (h : p.Agrees l past) {query : Nat} {q : Held (ComputedQuery σ)}
    (hq : p.queries[query]? = some q) : q.slot < l.created := by
  refine h.queries_lt q.slot ?_
  rw [← h.queries]
  exact List.mem_map_of_mem (List.mem_of_getElem? hq)

theorem Agrees.scorerSlot_lt (h : p.Agrees l past) {scorer : Nat} {c : Held (OpenScorer σ)}
    (hc : p.scorers[scorer]? = some c) : c.slot < l.created := by
  refine h.scorers_lt c.slot ?_
  rw [← h.scorers]
  exact List.mem_map_of_mem (List.mem_of_getElem? hc)

theorem Agrees.derive (h : p.Agrees l past) (query : Nat)
    (make : ComputedQuery σ → ComputedQuery σ) :
    (p.derive query make).Agrees { l with queries := l.queries ++ l.queries[query]?.toList }
      past := by
  unfold Pool.derive
  rw [h.slot?]
  cases hq : p.queries[query]? with
  | none => simpa using h
  | some q =>
      have hlt := List.forall_mem_append.mpr
        ⟨h.queries_lt, List.forall_mem_singleton.mpr (h.slot_lt hq)⟩
      refine ⟨h.created, ?_, h.scorers, hlt, h.scorers_lt, h.slots⟩
      rw [List.map_append, h.queries]
      rfl

theorem Agrees.openScorer (h : p.Agrees l past) (query : Nat) (segment : Segment)
    (boost : Float32) : (p.openScorer query segment boost).Agrees
      { l with scorers := l.scorers ++ l.queries[query]?.toList } past := by
  unfold Pool.openScorer
  rw [h.slot?]
  cases hq : p.queries[query]? with
  | none => simpa using h
  | some q =>
      have hlt := List.forall_mem_append.mpr
        ⟨h.scorers_lt, List.forall_mem_singleton.mpr (h.slot_lt hq)⟩
      refine ⟨h.created, h.queries, ?_, h.queries_lt, hlt, h.slots⟩
      rw [List.map_append, h.scorers]
      rfl

/-- A scorer that moves keeps its slot. -/
theorem Agrees.setScorer (h : p.Agrees l past) (scorer : Nat)
    (f : OpenScorer σ → OpenScorer σ) : (p.setScorer scorer f).Agrees l past := by
  unfold Pool.setScorer
  split
  · rename_i c hc
    refine ⟨h.created, h.queries, ?_, h.queries_lt, h.scorers_lt, h.slots⟩
    have hslot : (p.scorers.map Held.slot)[scorer]? = some c.slot := by
      rw [List.getElem?_map, hc]
      rfl
    obtain ⟨_, hget⟩ := List.getElem?_eq_some_iff.mp hslot
    rw [List.map_set, ← h.scorers, ← hget, List.set_getElem_self]
  · exact h

/-! ### Scores, explanations and the taking of failures -/

/-- What is done on the slot of a family changes no other slot. -/
theorem Agrees.onSlot {α : Type} (h : p.Agrees l past) {slot : Nat} (hslot : slot < l.created)
    (f : SearchState σ → α × SearchState σ) (d : Deed)
    (hd : ∀ family, firstFailureSince family (past ++ [d]) =
      if slot = family then (f ⟨p.world, firstFailureSince slot past⟩).2.failure
      else firstFailureSince family past) :
    (p.onSlot slot f).2.Agrees l (past ++ [d]) where
  created := List.length_set.trans h.created
  queries := h.queries
  scorers := h.scorers
  queries_lt := h.queries_lt
  scorers_lt := h.scorers_lt
  slots family := by
    have hlt : slot < p.slots.length := h.created.symm ▸ hslot
    rw [hd family]
    simp only [Pool.onSlot, List.getElem?_set, hlt, if_true, h.slots]
    split
    · rfl
    · exact h.slots family

theorem Agrees.deed?_score (h : p.Agrees l past) (scorer : Nat) :
    p.deed? l (.score scorer) = p.scorers[scorer]?.map fun c =>
      .scored c.slot (c.item.query.failure? c.item.scorer p.world) := by
  simp only [deed?, h.scorerSlot?]
  cases p.scorers[scorer]? <;> rfl

theorem Agrees.score (h : p.Agrees l past) (scorer : Nat) :
    (p.score scorer).2.Agrees l (past ++ (p.deed? l (.score scorer)).toList) := by
  rw [h.deed?_score, Pool.score]
  cases hc : p.scorers[scorer]? with
  | none => simpa using h
  | some c =>
      have hscored := h.onSlot (h.scorerSlot_lt hc) c.item.score
        (.scored c.slot (c.item.query.failure? c.item.scorer p.world)) fun family => by
          rw [firstFailureSince_scored, c.item.score_failure]
          split
          · rename_i heq
            rw [heq]
          · rfl
      rcases hscore : p.onSlot c.slot c.item.score with ⟨⟨x, next⟩, after⟩
      rw [hscore] at hscored
      simp only [hscore]
      exact hscored.setScorer scorer fun _ => next

theorem Agrees.explain (h : p.Agrees l past) (query : Nat) (segment : Segment) (doc : Nat) :
    (p.explain query segment doc).2.Agrees l
      (past ++ (p.deed? l (.explain query segment doc)).toList) := by
  rw [deed?, h.slot?, Pool.explain]
  cases hq : p.queries[query]? with
  | none => simpa using h
  | some q =>
      refine h.onSlot (h.slot_lt hq) (q.item.explain segment doc) (.explained q.slot)
        fun family => ?_
      rw [firstFailureSince_explained, explain_failure]
      split
      · rename_i heq
        rw [heq]
      · rfl

theorem Agrees.takeFailure (h : p.Agrees l past) (query : Nat) :
    (p.takeFailure query).2.Agrees l (past ++ (p.deed? l (.takeFailure query)).toList) := by
  rw [deed?, h.slot?, Pool.takeFailure]
  cases hq : p.queries[query]? with
  | none => simpa using h
  | some q =>
      refine h.onSlot (h.slot_lt hq) SearchState.takeFailure (.took q.slot) fun family => ?_
      rw [firstFailureSince_took]
      rfl

/-- Every call keeps families and slots together. -/
theorem Agrees.perform (h : p.Agrees l past) (call : PoolCall σ) :
    (p.perform call).Agrees (l.after call) (past ++ (p.deed? l call).toList) := by
  have hsilent : ∀ {call : PoolCall σ}, p.deed? l call = none →
      (p.perform call).Agrees (l.after call) past →
      (p.perform call).Agrees (l.after call) (past ++ (p.deed? l call).toList) := by
    intro call hnone hcall
    rw [hnone, Option.toList_none, List.append_nil]
    exact hcall
  cases call with
  | score scorer => exact h.score scorer
  | explain query segment doc => exact h.explain query segment doc
  | takeFailure query => exact h.takeFailure query
  | create q => exact hsilent rfl (h.create q)
  | clone query => exact hsilent rfl (h.derive query id)
  | rewrite query replace => exact hsilent rfl (h.derive query (·.rewrite replace))
  | withBoost query boost => exact hsilent rfl (h.derive query (·.withBoost boost))
  | openScorer query segment boost => exact hsilent rfl (h.openScorer query segment boost)
  | advance scorer => exact hsilent rfl (h.setScorer scorer .advance)
  | seek scorer target => exact hsilent rfl (h.setScorer scorer (·.seek target))

/-! ### A run of calls -/

theorem Agrees.performAll (h : p.Agrees l past) (calls : List (PoolCall σ)) :
    (p.performAll calls).Agrees (l.afterAll calls) (past ++ p.deeds l calls) := by
  induction calls generalizing p l past with
  | nil => rwa [Pool.deeds, List.append_nil]
  | cons call rest ih =>
      rw [Pool.deeds, ← List.append_assoc]
      exact ih (h.perform call)

/-- What is got is the first failure of the family since it was last taken. -/
theorem Agrees.reply (h : p.Agrees l past) (query : Nat) :
    (p.takeFailure query).1 =
      l.queries[query]?.map fun family => firstFailureSince family past := by
  rw [h.slot?, Pool.takeFailure]
  cases p.queries[query]? with
  | none => rfl
  | some q => exact congrArg some (h.slots q.slot)

end Pool

/-- However queries are created, copied, rewritten and explained and their scorers moved and asked
for scores: when the failure of a query is taken, what is got is the first failure among the scores
of its whole family since the failure of any member was last taken, and nothing if there was none.
Of a query that does not exist nothing is taken. -/
theorem takeFailure_first {σ : Type} (world : σ) (calls : List (PoolCall σ)) (query : Nat) :
    (((Pool.start world).performAll calls).takeFailure query).1 =
      (Lineage.start.afterAll calls).queries[query]?.map fun family =>
        firstFailureSince family ((Pool.start world).deeds .start calls) :=
  ((Pool.agrees_start world).performAll calls).reply query

def ComputedQuery.failing : ComputedQuery (List ScoreError) where
  plan := .all
  boost := 1.0
  context := .all []
  score := ExceptT.mk fun
    | [] => (.ok 1.0, [])
    | e :: rest => (.error e, rest)

/-- A scorer is opened, its query is rewritten and the new one copied. Explanations fail before and
after the scorer does, twice; its first failure is taken through the copy. -/
example :
    let segment : Segment := [.titled ["Dune"]]
    ((((Pool.start [.store "a", .store "b", .store "c", .store "d"]).performAll
      [.create .failing, .openScorer 0 segment 1.0, .rewrite 0 fun _ => some .none, .clone 1,
        .explain 0 segment 0, .score 0, .score 0, .explain 0 segment 0]).takeFailure 2).1) =
      some (some (.store "b")) := by
  rfl

end Catalogue
