import Catalogue.Proofs.Score.Soundness
import Catalogue.Search.Storage

/-! # An opened service has a sound graph

Opening a service checks the fields and the entry point of its graph, and nothing that is done
with the service later changes either. No search of it can then fail for its graph. -/

namespace Catalogue

namespace Service

variable {ε : Type}

/-- The services there are: opened over a graph, and changed by adding, committing and listening,
over whatever index and with whatever success. -/
inductive Opened : Service ε → Prop where
  | create {stemmers index settings g score s} : g.Declared →
      create stemmers index settings g score = .ok s → Opened s
  | add (outcome : AddOutcome) (index : Index) {s} (b : Book) : Opened s →
      Opened (addAs outcome index s b).2.2
  | commit (outcome : CommitOutcome) (index : Index) {s} : Opened s →
      Opened (commitAs outcome index s).2.2
  | listen {s} (l : ScopeListener ε) : Opened s → Opened (s.listen l)

variable {stemmers : Analysis.Stemmers} {index : Index}

theorem Opened.of_ofSettings {settings : ServiceSettings} {scoring : ScoringSettings}
    {registry : Registry} {score : String} {s : Service ε}
    (h : ofSettings stemmers index settings scoring registry score = .ok s) : Opened s := by
  obtain ⟨g, hg, h⟩ := bind_eq_ok_iff.mp h
  exact .create (.inr ⟨scoring, registry, mapError_eq_ok_iff.mp hg⟩) h

theorem Opened.of_openWith {t t' : Tree} {settings : Settings} {registry : Registry}
    {s : Service ε} (h : openWith stemmers t settings registry = (.ok (index, s), t')) :
    Opened s := by
  unfold openWith at h
  cases hg : Graph.ofSettings settings.scoring registry with
  | error e =>
      rw [hg] at h
      cases h
  | ok g =>
      simp only [hg] at h
      split at h
      · cases h
      · rename_i found _ _
        obtain ⟨hcreated, _⟩ := Prod.mk.inj h
        cases hc : Service.create (ε := ε) stemmers found
            ⟨settings.index.language, settings.index.heapSize⟩ g settings.search.score with
        | error e =>
            rw [hc] at hcreated
            cases hcreated
        | ok service =>
            rw [hc] at hcreated
            cases hcreated
            exact .create (.inr ⟨_, _, hg⟩) hc

/-- What opening checks of a graph and an entry point. -/
structure Checked (s : Service ε) : Prop where
  declared : s.graph.Declared
  fields : s.graph.validateFields = .ok ()
  entry : s.graph.checkEntry s.score = .ok ()

theorem Checked.withPending {s : Service ε} (h : s.Checked) (pending : Option (List Document))
    (snapshot : Option (List Segment)) :
    ({ s with pending := pending, snapshot := snapshot } : Service ε).Checked :=
  ⟨h.declared, h.fields, h.entry⟩

theorem Checked.addAs {s : Service ε} (h : s.Checked) (outcome : AddOutcome) (b : Book) :
    (s.addAs outcome index b).2.2.Checked := by
  unfold Service.addAs
  split
  · exact h
  · split <;> exact h.withPending _ s.snapshot

theorem Checked.commitAs {s : Service ε} (h : s.Checked) (outcome : CommitOutcome) :
    (s.commitAs outcome index).2.2.Checked := by
  unfold Service.commitAs
  split
  · exact h
  · split
    · exact h.withPending _ s.snapshot
    · exact h.withPending none _

theorem Opened.checked {s : Service ε} (h : Opened s) : s.Checked := by
  induction h with
  | create hg hs =>
      obtain ⟨language, _, hs⟩ := bind_eq_ok_iff.mp hs
      obtain ⟨_, hfields, hs⟩ := bind_eq_ok_iff.mp hs
      obtain ⟨_, hentry, hs⟩ := bind_eq_ok_iff.mp hs
      cases hs
      exact ⟨hg, mapError_eq_ok_iff.mp hfields, mapError_eq_ok_iff.mp hentry⟩
  | add outcome index b _ ih => exact ih.addAs outcome b
  | commit outcome index _ ih => exact ih.commitAs outcome
  | listen l _ ih => exact ⟨ih.declared, ih.fields, ih.entry⟩

/-- The variables and the score function of a search on an opened service exist. -/
theorem Checked.exists_scoreFunction {s : Service ε} (h : s.Checked) :
    ∃ vs score, Variables.ofGraph s.graph = .ok vs ∧ vs.scoreFunction s.score = .ok score := by
  have hg := h.declared.wired
  obtain ⟨vs, hvs, hfaithful⟩ := hg.typed_rules.exists_ofGraph hg h.fields
  obtain ⟨_, score, _, hscore, _⟩ := hfaithful.scoreFunction_answers hg.typed_rules h.entry
  exact ⟨vs, score, hvs, hscore⟩

/-! ## What searches fail for -/

def NotGraph {α : Type} (result : Except SearchError α) : Prop :=
  ∀ e, result ≠ .error (.graph e)

theorem notGraph_ok {α : Type} (a : α) : NotGraph (.ok a) := fun _ h => by cases h

theorem notGraph_error_iff {α : Type} {e : SearchError} :
    NotGraph (.error e : Except SearchError α) ↔ ∀ x, e ≠ .graph x := by
  simp [NotGraph]

theorem mapMatches_notGraph {α : Type} {each : Each α}
    (heach : ∀ q segments r s, NotGraph (each q segments r s).1) (q : ComputedQuery ScoreState)
    (segments : List Segment) (found : List Ranked) (s : SearchState ScoreState) :
    NotGraph (mapMatches each q segments found s).1 := by
  induction found generalizing s with
  | nil => exact notGraph_ok []
  | cons r rest ih =>
      have hr := heach q segments r s
      simp only [mapMatches]
      rcases hmatch : each q segments r s with ⟨e | a, s'⟩
      · rw [hmatch] at hr
        exact notGraph_error_iff.mpr (notGraph_error_iff.mp hr)
      · have hrest := ih s'
        rcases hothers : mapMatches each q segments rest s' with ⟨e | as, s''⟩
        · rw [hothers] at hrest
          simp only [hothers]
          exact hrest
        · simp only [hothers]
          exact notGraph_ok _

theorem runPlan_notGraph {α : Type} {each : Each α}
    (heach : ∀ q segments r s, NotGraph (each q segments r s).1) (segments : List Segment)
    (plan : Plan) (limit : Nat) (score : Variables.ScoreFunction) (start : ScoreState) :
    NotGraph (runPlan each segments plan limit score start).1 := by
  unfold runPlan
  simp only
  split
  · exact notGraph_error_iff.mpr (by simp)
  · exact mapMatches_notGraph heach _ _ _ _

theorem collect_notGraph {α : Type} {each : Each α}
    (heach : ∀ q segments r s, NotGraph (each q segments r s).1) {s : Service ε} (h : s.Checked)
    (query : Query) (limit : Nat) : NotGraph (collect each s query limit).1 := by
  obtain ⟨vs, score, hvs, hscore⟩ := h.exists_scoreFunction
  unfold collect
  split
  · exact notGraph_error_iff.mpr (by simp)
  · split
    · exact notGraph_error_iff.mpr (by simp)
    · split
      · exact notGraph_ok []
      · simp only [hvs, hscore]
        exact runPlan_notGraph heach _ _ _ _ _

theorem hit_notGraph (segments : List Segment) (r : Ranked) : NotGraph (hit segments r) := by
  unfold hit
  split
  · exact notGraph_ok _
  · exact notGraph_error_iff.mpr (by simp)

theorem eachExplained_notGraph (q : ComputedQuery ScoreState) (segments : List Segment)
    (r : Ranked) (s : SearchState ScoreState) : NotGraph (eachExplained q segments r s).1 := by
  unfold eachExplained
  split
  · exact notGraph_error_iff.mpr (by simp)
  · split
    · rename_i e he
      have hhit := hit_notGraph segments r
      rw [he] at hhit
      exact notGraph_error_iff.mpr (notGraph_error_iff.mp hhit)
    · exact notGraph_ok _

end Service

/-- A declared graph whose fields are known has sound variables, and no search on a service that
was opened over a declared graph fails for the graph. -/
theorem declared_graph_sound :
    (∀ g : Graph, g.Declared → g.validateFields = .ok () →
      ∃ vs, Variables.ofGraph g = .ok vs ∧ vs.Sound g) ∧
    ∀ {ε : Type} (s : Service ε), s.Opened → ∀ query limit e,
      (s.search query limit).1 ≠ .error (.graph e) ∧
        (s.explainTop query limit).1 ≠ .error (.graph e) := by
  constructor
  · intro g hdeclared hfields
    have hg := hdeclared.wired
    obtain ⟨vs, hvs, hfaithful⟩ := hg.typed_rules.exists_ofGraph hg hfields
    exact ⟨vs, hvs, hfaithful.sound hg⟩
  · intro ε s hs query limit e
    exact ⟨Service.collect_notGraph (fun _ _ _ _ => Service.hit_notGraph _ _) hs.checked _ _ e,
      Service.collect_notGraph Service.eachExplained_notGraph hs.checked _ _ e⟩

theorem titleLength_sound :
    (∃ vs, Variables.ofGraph Graph.titleLength = .ok vs ∧ vs.Sound Graph.titleLength) ∧
    ∃ s : Service Unit, Service.create ⟨fun _ word => word⟩ Index.empty ⟨"english", 15000000⟩
        Graph.titleLength "length" = .ok s ∧
      ∀ query limit e, (s.search query limit).1 ≠ .error (.graph e) ∧
        (s.explainTop query limit).1 ≠ .error (.graph e) := by
  obtain ⟨s, hs⟩ : ∃ s : Service Unit, Service.create ⟨fun _ word => word⟩ Index.empty
      ⟨"english", 15000000⟩ Graph.titleLength "length" = .ok s := ⟨_, rfl⟩
  exact ⟨declared_graph_sound.1 _ Graph.declared_titleLength rfl,
    s, hs, declared_graph_sound.2 s (.create Graph.declared_titleLength hs)⟩

end Catalogue
