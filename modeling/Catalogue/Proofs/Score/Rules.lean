import Catalogue.Proofs.Score.Evaluation
import Catalogue.Score.Variables

/-! # What providers answer

The providers of a graph keep values in cells and share them. Whatever relation between places,
positions and results obeys the rules of evaluation, the answers of the providers are in it, as
long as the kept values of the current announcement are. Two relations matter: the result of
direct evaluation, and being of the declared type. -/

namespace Catalogue

/-- A relation between places, positions and results. -/
abbrev Answering := Place → Nat → Except ScoreError Value → Prop

/-- Results of positions asked for in order, up to the first failure. -/
inductive Gathered (answers : Nat → Except ScoreError Value → Prop) :
    List Nat → Except ScoreError (List Value) → Prop where
  | nil : Gathered answers [] (.ok [])
  | failed {i rest e} : answers i (.error e) → Gathered answers (i :: rest) (.error e)
  | cons {i rest v r} : answers i (.ok v) → Gathered answers rest r →
      Gathered answers (i :: rest) (r.map (v :: ·))

/-- The rules of evaluation: values are of the declared type, leaves read their field, and derived
variables fail as the first failing input or apply their function. -/
structure EvaluationRules (g : Graph) (answers : Answering) : Prop where
  typed : ∀ {p i v}, answers p i (.ok v) → g.typeAt? i = some v.type
  leaf : ∀ {p i v field kind f}, g.variables[i]? = some v → v.source = .leaf field kind →
    Field.ofName? field = some f → answers p i (p.read f kind)
  failed : ∀ {p i v inputs f e}, g.variables[i]? = some v → v.source = .derived inputs f →
    Gathered (answers p) inputs (.error e) → answers p i (.error e)
  applied : ∀ {p i v inputs f values arguments}, g.variables[i]? = some v →
    v.source = .derived inputs f → Gathered (answers p) inputs (.ok values) →
    Arguments.ofValues? f.inputs values = some arguments →
    answers p i (.ok ⟨f.output, f.apply arguments⟩)

/-- Values kept under the current announcement are answers where the search stands, and none is
kept under an announcement still to come. -/
structure ScoreState.Keeps (answers : Answering) (s : ScoreState) : Prop where
  past : ∀ {i seen : Nat} {v : Value}, s.cells[i]? = some (some (seen, v)) → seen ≤ s.generation
  kept : ∀ {i : Nat} {v : Value}, s.kept? i = some v → answers s.place i (.ok v)

/-- What evaluation does to a state: the search stands where it stood and has heard what it had
heard, there is still a cell for each variable, and what is kept is still right. -/
structure Steady (answers : Answering) (s s' : ScoreState) : Prop where
  place : s'.place = s.place
  generation : s'.generation = s.generation
  size : s'.cells.length = s.cells.length
  keeps : s'.Keeps answers

/-- An evaluation whose results are as described wherever the search stands. -/
def Answers {α : Type} (answers : Answering) (e : Evaluation ScoreState α)
    (result : Place → Except ScoreError α → Prop) : Prop :=
  ∀ s : ScoreState, s.Keeps answers →
    result s.place ((ExceptT.run e).run s).1 ∧ Steady answers s ((ExceptT.run e).run s).2

abbrev Provides (answers : Answering) (p : Provider ScoreState) (i : Nat) : Prop :=
  Answers answers p fun place r => answers place i r

def GatheredAs (answers : Nat → Except ScoreError Value → Prop) (inputs : List Nat)
    (types : List ValueType) (r : Except ScoreError (Arguments types)) : Prop :=
  ∃ values, Gathered answers inputs values ∧ values.map (Arguments.ofValues? types) = r.map some

variable {answers : Answering}

theorem Steady.refl {s : ScoreState} (h : s.Keeps answers) : Steady answers s s :=
  ⟨rfl, rfl, rfl, h⟩

theorem Steady.trans {s t u : ScoreState} (h : Steady answers s t) (h' : Steady answers t u) :
    Steady answers s u :=
  ⟨h'.place.trans h.place, h'.generation.trans h.generation, h'.size.trans h.size, h'.keeps⟩

/-! ## The kept values -/

theorem ScoreState.kept?_eq_some_iff {s : ScoreState} {i : Nat} {v : Value} :
    s.kept? i = some v ↔ s.cells[i]? = some (some (s.generation, v)) := by
  unfold ScoreState.kept?
  split
  · rename_i seen w hc
    by_cases h : seen = s.generation
    · simp [h, hc]
    · simp [h, hc]
  · rename_i hc
    simp only [reduceCtorEq, false_iff]
    exact fun h => hc _ _ h

theorem ScoreState.Keeps.start (count : Nat) : (ScoreState.start count).Keeps answers := by
  have hnone : ∀ {i : Nat} {c : Nat × Value},
      (ScoreState.start count).cells[i]? ≠ some (some c) := by
    intro i c h
    simp [ScoreState.start, List.getElem?_replicate] at h
  exact ⟨fun h => absurd h hnone, fun h => absurd (kept?_eq_some_iff.mp h) hnone⟩

/-- After an announcement nothing is kept, wherever the search stands then. -/
theorem ScoreState.Keeps.announce {s : ScoreState} {other : Answering} (h : s.Keeps other)
    (p : Place) : ({ s with place := p }.invalidate).Keeps answers := by
  refine ⟨fun hc => Nat.le_succ_of_le (h.past hc), fun {i v} hk => ?_⟩
  have hcell : s.cells[i]? = some (some (s.generation + 1, v)) := kept?_eq_some_iff.mp hk
  have hle := h.past hcell
  omega

theorem ScoreState.Keeps.keep {s : ScoreState} (h : s.Keeps answers) {i : Nat} {v : Value}
    (hv : answers s.place i (.ok v)) : (s.keep i s.generation v).Keeps answers := by
  have hcell : ∀ {j : Nat} {c : Nat × Value}, (s.keep i s.generation v).cells[j]? = some (some c) →
      (j = i ∧ c = (s.generation, v)) ∨ s.cells[j]? = some (some c) := by
    intro j c hc
    simp only [ScoreState.keep, List.getElem?_set] at hc
    split at hc
    · rename_i hij
      split at hc
      · simp only [Option.some.injEq] at hc
        exact .inl ⟨hij.symm, hc.symm⟩
      · cases hc
    · exact .inr hc
  refine ⟨fun {j seen w} hc => ?_, fun {j w} hk => ?_⟩
  · rcases hcell hc with ⟨_, he⟩ | hc
    · cases he
      exact Nat.le_refl _
    · exact h.past hc
  · rcases hcell (kept?_eq_some_iff.mp hk) with ⟨rfl, he⟩ | hc
    · cases he
      exact hv
    · exact h.kept (kept?_eq_some_iff.mpr hc)

/-! ## Sequences of evaluations -/

section

variable {α β : Type}

theorem Answers.mono {e : Evaluation ScoreState α} {r r' : Place → Except ScoreError α → Prop}
    (h : Answers answers e r) (hr : ∀ p x, r p x → r' p x) : Answers answers e r' :=
  fun s hs => ⟨hr _ _ (h s hs).1, (h s hs).2⟩

theorem Answers.pure (a : α) {r : Place → Except ScoreError α → Prop} (h : ∀ p, r p (.ok a)) :
    Answers answers (Pure.pure a) r :=
  fun s hs => ⟨h s.place, .refl hs⟩

theorem Answers.bind {e : Evaluation ScoreState α} {k : α → Evaluation ScoreState β}
    {r : Place → Except ScoreError α → Prop} {r' : Place → Except ScoreError β → Prop}
    (he : Answers answers e r) (herr : ∀ p x, r p (.error x) → r' p (.error x))
    (hk : ∀ a, Answers answers (k a) fun p y => r p (.ok a) → r' p y) :
    Answers answers (e >>= k) r' := by
  intro s hs
  obtain ⟨hr, hsteady⟩ := he s hs
  rw [run_bind]
  rcases hres : (ExceptT.run e).run s with ⟨x | a, s'⟩
  · rw [hres] at hr hsteady
    exact ⟨herr _ _ hr, hsteady⟩
  · rw [hres] at hr hsteady
    obtain ⟨hy, hsteady'⟩ := hk a s' hsteady.keeps
    refine ⟨?_, hsteady.trans hsteady'⟩
    rw [hsteady.place] at hy
    exact hy hr

/-- What a state notes of the outside makes no difference. -/
theorem Answers.noting {p : Provider ScoreState} {event : ScoreEvent}
    {r : Place → Except ScoreError Value → Prop} (h : Answers answers p r) :
    Answers answers (noting event p) r := by
  refine h.bind (fun _ _ he => he) fun v => ?_
  intro s hs
  exact ⟨fun hr => hr, rfl, rfl, rfl, ⟨hs.past, hs.kept⟩⟩

end

theorem memoized_run_kept {p : Provider ScoreState} {i : Nat} {s : ScoreState} {v : Value}
    (h : s.kept? i = some v) : (ExceptT.run (memoized i p)).run s = (.ok v, s) := by
  rw [memoized, run_get_bind, h]
  rfl

theorem memoized_run_asked {p : Provider ScoreState} {i : Nat} {s : ScoreState}
    (h : s.kept? i = none) :
    (ExceptT.run (memoized i p)).run s =
      match (ExceptT.run p).run s with
      | (.ok v, s') => (.ok v, s'.keep i s.generation v)
      | (.error x, s') => (.error x, s') := by
  rw [memoized, run_get_bind, h]
  dsimp only
  rw [run_bind]
  rcases (ExceptT.run p).run s with ⟨_ | _, _⟩ <;> rfl

/-- A cell answers as the provider whose values it keeps. -/
theorem Answers.memoized {p : Provider ScoreState} {i : Nat}
    (h : Provides answers p i) : Provides answers (memoized i p) i := by
  intro s hs
  cases hk : s.kept? i with
  | some v =>
      rw [memoized_run_kept hk]
      exact ⟨hs.kept hk, .refl hs⟩
  | none =>
      obtain ⟨hr, hsteady⟩ := h s hs
      rw [memoized_run_asked hk]
      rcases hres : (ExceptT.run p).run s with ⟨x | v, s'⟩
      · rw [hres] at hr hsteady
        exact ⟨hr, hsteady⟩
      · rw [hres] at hr hsteady
        have hsize : (s'.keep i s.generation v).cells.length = s.cells.length :=
          List.length_set.trans hsteady.size
        refine ⟨hr, hsteady.place, hsteady.generation, hsize, ?_⟩
        rw [← hsteady.generation]
        exact hsteady.keeps.keep (hsteady.place ▸ hr)

end Catalogue
