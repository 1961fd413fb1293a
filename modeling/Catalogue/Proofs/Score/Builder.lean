import Catalogue.Proofs.Score.Settings
import Catalogue.Score.Builder

/-! # A builder stays in step

A builder keeps positions beside its variables, and both say the same. So a declaration makes of
the builder what it makes of the graph: it appends the variable to both, or leaves both as they
were. Runs of steps follow by induction. -/

namespace Catalogue.Builder

def declare : Declaration → Building Unit
  | .leaf name field kind => leaf name field kind
  | .derived name inputs f => derived name inputs f

inductive Step where
  | declare (d : Declaration)
  | build

/-- How a step ends: a variable is declared, a declaration is refused, or a graph is built with the
positions of its names. -/
inductive Outcome where
  | declared
  | refused (e : GraphError)
  | built (taken : Builder)

def Outcome.succeeds : Outcome → Bool
  | .refused _ => false
  | _ => true

def step (b : Builder) : Step → Outcome × Builder
  | .declare d =>
    match (ExceptT.run (declare d)).run b with
    | (.ok _, next) => (.declared, next)
    | (.error e, next) => (.refused e, next)
  | .build => (.built (StateT.run build b).run.1, (StateT.run build b).run.2)

def run (b : Builder) : List Step → List Outcome × Builder
  | [] => ([], b)
  | s :: rest =>
    let (outcome, next) := b.step s
    let (outcomes, last) := next.run rest
    (outcome :: outcomes, last)

def succeeding (b : Builder) (steps : List Step) : List Step :=
  ((steps.zip (b.run steps).1).filter fun p => p.2.succeeds).map Prod.fst

/-- Names are distinct, the positions are the inverse of the list of variables, and every input of
a derived variable is an earlier one, of the type that its function takes there. -/
structure Consistent (b : Builder) : Prop where
  distinct : (b.nodes.map Variable.name).Nodup
  inverse : ∀ name i, b.position? name = some i ↔ ∃ v, b.nodes[i]? = some v ∧ v.name = name
  wired : b.graph.Wired

def pushed (b : Builder) (v : Variable) : Builder :=
  ⟨b.nodes ++ [v], (v.name, b.nodes.length) :: b.positions⟩

variable {b : Builder} {name : String} {v : Variable}

theorem Consistent.empty : Builder.empty.Consistent where
  distinct := .nil
  inverse name i := by simp [Builder.empty, Builder.position?]
  wired := Graph.wired_empty

/-! ## One declaration -/

/-- Positions are those of the graph. -/
theorem Consistent.position?_eq (h : b.Consistent) (name : String) :
    b.position? name = b.graph.position? name := by
  refine Option.ext fun i => (h.inverse name i).trans ⟨?_, Graph.exists_of_position?⟩
  rintro ⟨v, hv, rfl⟩
  exact Graph.position?_of_getElem? h.distinct hv

theorem Consistent.checkUnique_run (h : b.Consistent) (name : String) :
    (ExceptT.run (checkUnique name)).run b = (b.graph.checkUnique name, b) := by
  rw [checkUnique, run_get_bind, Graph.checkUnique, h.position?_eq]
  split <;> rfl

theorem Consistent.resolveInputs_run (h : b.Consistent) (name : String) (inputs : List String)
    (types : List ValueType) :
    (ExceptT.run (resolveInputs name inputs types)).run b =
      (b.graph.resolveInputs name inputs types, b) := by
  induction inputs generalizing types with
  | nil => cases types <;> rfl
  | cons input inputs ih =>
      cases types with
      | nil => rfl
      | cons expected types =>
          have hrest := ih types
          rw [resolveInputs, Graph.resolveInputs, run_get_bind, h.position?_eq]
          cases hp : b.graph.position? input with
          | none => rfl
          | some position =>
              obtain ⟨v, hv, _⟩ := Graph.exists_of_position? hp
              have hnode : b.nodes[position]? = some v := hv
              have htype : b.graph.type? input = some v.type := by
                rw [Graph.type?_eq_typeAt?, hp, Option.bind_some, Graph.typeAt?, hv, Option.map_some]
              simp only [hnode, htype]
              by_cases heq : v.type = expected
              · rw [if_pos heq, if_pos heq, run_bind, hrest]
                cases b.graph.resolveInputs name inputs types <;> rfl
              · rw [if_neg heq, if_neg heq]
                rfl

/-- What a declaration makes of a builder, and what it makes of the graph. -/
inductive Declares (b : Builder) : Except GraphError Graph → Except GraphError Unit × Builder → Prop
  | declared {v : Variable} : b.graph.checkUnique v.name = .ok () →
      Declares b (.ok (b.graph.push v)) (.ok (), b.pushed v)
  | refused {e : GraphError} : Declares b (.error e) (.error e, b)

theorem Consistent.declares (h : b.Consistent) (d : Declaration) :
    Declares b (b.graph.declare d) ((ExceptT.run (declare d)).run b) := by
  cases d with
  | leaf name field kind =>
      have hunique := h.checkUnique_run name
      simp only [declare, leaf, Graph.declare, Graph.leaf]
      rw [run_bind, hunique]
      cases hfresh : b.graph.checkUnique name with
      | error e => exact .refused
      | ok _ => exact .declared hfresh
  | derived name inputs f =>
      have hunique := h.checkUnique_run name
      have hresolved := h.resolveInputs_run name inputs f.inputs
      simp only [declare, derived, Graph.declare, Graph.derived]
      rw [run_bind, hunique]
      cases hfresh : b.graph.checkUnique name with
      | error e => exact .refused
      | ok _ =>
          by_cases hlength : inputs.length ≠ f.inputs.length
          · simp only [if_pos hlength]
            exact .refused
          · simp only [if_neg hlength]
            rw [run_bind, hresolved]
            cases hpositions : b.graph.resolveInputs name inputs f.inputs with
            | error e => exact .refused
            | ok positions => exact .declared hfresh

/-- A name that passes the check is not the name of any variable. -/
theorem name_ne_of_checkUnique (h : b.graph.checkUnique name = .ok ()) {w : Variable}
    (hw : w ∈ b.nodes) : w.name ≠ name := by
  intro hname
  have hmem : name ∈ b.graph.typings.map Prod.fst := Graph.mem_names.mpr ⟨w, hw, hname⟩
  have hdeclared := Graph.checkUnique_of_declared hmem
  cases h.symm.trans hdeclared

/-- A variable with a new name keeps the builder in step. -/
theorem Consistent.pushed (h : b.Consistent) (hfresh : b.graph.checkUnique v.name = .ok ())
    (hwired : (b.graph.push v).Wired) : (b.pushed v).Consistent where
  distinct := by
    have hnames : (b.pushed v).nodes.map Variable.name = b.nodes.map Variable.name ++ [v.name] :=
      List.map_append
    rw [hnames, List.nodup_append]
    refine ⟨h.distinct, List.nodup_singleton _, fun n hn m hm => ?_⟩
    obtain ⟨w, hw, rfl⟩ := List.mem_map.mp hn
    obtain rfl := List.mem_singleton.mp hm
    exact name_ne_of_checkUnique hfresh hw
  inverse name i := by
    have hlast : (b.nodes ++ [v])[b.nodes.length]? = some v := by
      rw [List.getElem?_append_right (Nat.le_refl _), Nat.sub_self]
      rfl
    by_cases hname : name = v.name
    · have hposition : (b.pushed v).position? name = some b.nodes.length := by
        rw [position?, Builder.pushed, List.lookup_cons, hname, beq_self_eq_true]
      rw [hposition, Option.some.injEq]
      constructor
      · rintro rfl
        exact ⟨v, hlast, hname.symm⟩
      · rintro ⟨w, hw, hwname⟩
        rcases Graph.getElem?_concat_eq_some hw with hw | ⟨hi, _⟩
        · have hne := name_ne_of_checkUnique hfresh (List.mem_of_getElem? hw)
          exact absurd (hwname.trans hname) hne
        · exact hi.symm
    · have hposition : (b.pushed v).position? name = b.position? name := by
        rw [position?, Builder.pushed, List.lookup_cons, beq_eq_false_iff_ne.mpr hname]
        rfl
      rw [hposition, h.inverse]
      constructor
      · rintro ⟨w, hw, hwname⟩
        have hlt := (List.getElem?_eq_some_iff.mp hw).1
        exact ⟨w, (List.getElem?_append_left hlt).trans hw, hwname⟩
      · rintro ⟨w, hw, hwname⟩
        rcases Graph.getElem?_concat_eq_some hw with hw | ⟨_, rfl⟩
        · exact ⟨w, hw, hwname⟩
        · exact absurd hwname.symm hname
  wired := hwired

/-- A declaration declares what it declares of the graph and keeps the builder in step, or it is
refused as the graph refuses it and changes nothing. -/
theorem Consistent.step_declare (h : b.Consistent) (d : Declaration) :
    (∃ v, b.graph.declare d = .ok (b.graph.push v) ∧
      b.step (.declare d) = (.declared, b.pushed v) ∧ (b.pushed v).Consistent) ∨
    ∃ e, b.graph.declare d = .error e ∧ b.step (.declare d) = (.refused e, b) := by
  have hdeclares := h.declares d
  generalize hresult : b.graph.declare d = result at hdeclares
  generalize hrun : (ExceptT.run (declare d)).run b = ran at hdeclares
  cases hdeclares with
  | @declared v hfresh =>
      refine .inl ⟨v, rfl, ?_, h.pushed hfresh (h.wired.of_declare hresult)⟩
      rw [step, hrun]
  | @refused e =>
      refine .inr ⟨e, rfl, ?_⟩
      rw [step, hrun]

/-! ## Runs -/

theorem step_build (b : Builder) : b.step .build = (.built b, .empty) := rfl

theorem run_cons (b : Builder) (s : Step) (rest : List Step) :
    b.run (s :: rest) =
      ((b.step s).1 :: ((b.step s).2.run rest).1, ((b.step s).2.run rest).2) := rfl

theorem Consistent.step (h : b.Consistent) (s : Step) : (b.step s).2.Consistent := by
  cases s with
  | declare d =>
      rcases h.step_declare d with ⟨v, _, hstep, hnext⟩ | ⟨e, _, hstep⟩
      · rw [hstep]
        exact hnext
      · rw [hstep]
        exact h
  | build => exact .empty

/-- A step that does not succeed changes nothing. -/
theorem Consistent.step_refused (h : b.Consistent) {s : Step}
    (hs : (b.step s).1.succeeds = false) : (b.step s).2 = b := by
  cases s with
  | declare d =>
      rcases h.step_declare d with ⟨v, _, hstep, _⟩ | ⟨e, _, hstep⟩
      · rw [hstep] at hs
        cases hs
      · rw [hstep]
  | build => cases hs

theorem Consistent.run (h : b.Consistent) (steps : List Step) : (b.run steps).2.Consistent := by
  induction steps generalizing b with
  | nil => exact h
  | cons s rest ih => exact ih (h.step s)

/-- What is built was in step. -/
theorem Consistent.built (h : b.Consistent) {steps : List Step} {taken : Builder}
    (hbuilt : .built taken ∈ (b.run steps).1) : taken.Consistent := by
  induction steps generalizing b with
  | nil => cases hbuilt
  | cons s rest ih =>
      rw [run_cons] at hbuilt
      rcases List.mem_cons.mp hbuilt with hnow | hlater
      · cases s with
        | declare d =>
            rcases h.step_declare d with ⟨v, _, hstep, _⟩ | ⟨e, _, hstep⟩
            · rw [hstep] at hnow
              cases hnow
            · rw [hstep] at hnow
              cases hnow
        | build =>
            cases hnow
            exact h
      · exact ih (h.step s) hlater

theorem run_append (b : Builder) (steps later : List Step) :
    b.run (steps ++ later) =
      ((b.run steps).1 ++ ((b.run steps).2.run later).1, ((b.run steps).2.run later).2) := by
  induction steps generalizing b with
  | nil => rfl
  | cons s rest ih => rw [List.cons_append, run_cons, run_cons, ih, List.cons_append]

theorem succeeding_cons (b : Builder) (s : Step) (rest : List Step) :
    b.succeeding (s :: rest) =
      if (b.step s).1.succeeds then s :: (b.step s).2.succeeding rest
      else (b.step s).2.succeeding rest := by
  simp only [succeeding, run_cons, List.zip_cons_cons, List.filter_cons]
  split <;> rfl

/-- The steps that succeed go alone as they go among the others. -/
theorem Consistent.run_succeeding (h : b.Consistent) (steps : List Step) :
    b.run (b.succeeding steps) =
      ((b.run steps).1.filter Outcome.succeeds, (b.run steps).2) := by
  induction steps generalizing b with
  | nil => rfl
  | cons s rest ih =>
      have hrest := ih (h.step s)
      rw [succeeding_cons]
      cases hs : (b.step s).1.succeeds with
      | true =>
          rw [if_pos rfl]
          rw [run_cons, run_cons, hrest, List.filter_cons, if_pos hs]
      | false =>
          have hsame := h.step_refused hs
          rw [if_neg Bool.false_ne_true]
          rw [hsame] at hrest ⊢
          rw [hrest, run_cons, List.filter_cons, hs, hsame, if_neg Bool.false_ne_true]

/-- What can be said of a builder after some steps: it is in step, and so is every graph that was
built, whose names have the positions that it looks up; a step that is refused changes nothing, so
that the steps that succeeded lead alone to the same graphs and the same builder; and once a graph
is built, what comes later goes as with a new builder. -/
structure InStep (steps : List Step) : Prop where
  consistent : (empty.run steps).2.Consistent
  built : ∀ taken, .built taken ∈ (empty.run steps).1 →
    taken.Consistent ∧ ∀ name, taken.position? name = taken.graph.position? name
  refused : ∀ s e, ((empty.run steps).2.step s).1 = .refused e →
    ((empty.run steps).2.step s).2 = (empty.run steps).2
  successes : empty.run (empty.succeeding steps) =
    ((empty.run steps).1.filter Outcome.succeeds, (empty.run steps).2)
  afresh : ∀ later, empty.run (steps ++ .build :: later) =
    ((empty.run steps).1 ++ .built (empty.run steps).2 :: (empty.run later).1,
      (empty.run later).2)

/-- Whatever steps are taken, succeeding or failing in any order, the builder is in step. -/
theorem in_step (steps : List Step) : InStep steps where
  consistent := Consistent.empty.run steps
  built taken htaken := by
    have hconsistent := Consistent.empty.built htaken
    exact ⟨hconsistent, hconsistent.position?_eq⟩
  refused s e hs := (Consistent.empty.run steps).step_refused (by rw [hs]; rfl)
  successes := Consistent.empty.run_succeeding steps
  afresh later := by
    rw [run_append, run_cons, step_build]

end Catalogue.Builder
