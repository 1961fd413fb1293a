import Catalogue.Proofs.Score.Evaluation
import Catalogue.Proofs.Score.WellFormed
import Mathlib.Logic.Relation

/-! # The graph of settings

Declaring the bindings of settings in order succeeds exactly if the settings are well formed. Both
directions go by what is declared so far: a binding that fits is declared with its type, and one
that offends ends the declaration with its first offence. -/

namespace Catalogue

def LeafBinding.declared (b : LeafBinding) : Variable :=
  ⟨b.name, b.kind.type, .leaf b.field b.kind⟩

namespace Graph

def typings (g : Graph) : Typings := g.variables.map fun v => (v.name, v.type)

/-- A variable applies the function of a derived binding to the variables that its inputs name. -/
def Applies (g : Graph) (r : Registry) (v : Variable) (b : DerivedBinding) : Prop :=
  ∃ f positions, r.get? b.function = some f ∧
    List.Forall₂ (fun i input => g.position? input = some i) positions b.inputs ∧
    v = ⟨b.name, f.output, .derived positions f⟩

/-- The variables of a graph are the bindings of settings, leaves first. -/
def Lists (g : Graph) (s : ScoringSettings) (r : Registry) : Prop :=
  ∃ vs, g.variables = s.leaf.map LeafBinding.declared ++ vs ∧
    List.Forall₂ (g.Applies r) vs s.derived

def DependsOn (g : Graph) (i j : Nat) : Prop :=
  ∃ v inputs f, g.variables[i]? = some v ∧ v.source = .derived inputs f ∧ j ∈ inputs

/-- No variable depends on itself, even through others. -/
def Acyclic (g : Graph) : Prop := ∀ i, ¬Relation.TransGen g.DependsOn i i

/-! ## What is declared -/

variable {g : Graph} {name input : String} {t : ValueType}

theorem mem_typings {p : String × ValueType} :
    p ∈ g.typings ↔ ∃ v ∈ g.variables, v.name = p.1 ∧ v.type = p.2 := by
  simp only [typings, List.mem_map, Prod.ext_iff]

theorem mem_names : name ∈ g.typings.map Prod.fst ↔ ∃ v ∈ g.variables, v.name = name := by
  simp [typings]

theorem typings_push (g : Graph) (v : Variable) :
    (g.push v).typings = g.typings ++ [(v.name, v.type)] := by
  simp [typings, push]

theorem position?_isSome_iff : (g.position? name).isSome ↔ name ∈ g.typings.map Prod.fst := by
  rw [position?, List.findIdx?_isSome, List.any_eq_true, mem_names]
  simp only [decide_eq_true_eq]

theorem checkUnique_of_fresh (h : name ∉ g.typings.map Prod.fst) : g.checkUnique name = .ok () := by
  rw [← position?_isSome_iff] at h
  exact if_neg h

theorem checkUnique_of_declared (h : name ∈ g.typings.map Prod.fst) :
    g.checkUnique name = .error (.duplicateName name) := by
  rw [← position?_isSome_iff] at h
  exact if_pos h

/-- When names are distinct, the type of a name is the one that it is declared with. -/
theorem type?_eq_some_of_mem (hnames : (g.typings.map Prod.fst).Nodup)
    (h : (input, t) ∈ g.typings) : g.type? input = some t := by
  obtain ⟨v, hv, hname, htype⟩ := mem_typings.mp h
  have hnodup : (g.variables.map Variable.name).Nodup := by
    rw [typings, List.map_map] at hnames
    exact hnames
  cases hfind : g.find? input with
  | none =>
      have hne := List.find?_eq_none.mp hfind v hv
      exact absurd (decide_eq_true hname) hne
  | some w =>
      have hw := List.mem_of_find?_eq_some hfind
      have hmatch := List.find?_some hfind
      have hwname : w.name = input := of_decide_eq_true hmatch
      have hvw : w = v := List.inj_on_of_nodup_map hnodup hw hv (hwname.trans hname.symm)
      rw [type?, hfind, hvw, Option.map_some, htype]

theorem exists_position (h : input ∈ g.typings.map Prod.fst) : ∃ i, g.position? input = some i :=
  Option.isSome_iff_exists.mp (position?_isSome_iff.mpr h)

/-- A name keeps its position when more is declared. -/
theorem position?_append {i : Nat} (h : g.position? input = some i) (vs : List Variable) :
    (⟨g.variables ++ vs⟩ : Graph).position? input = some i := by
  have h' : g.variables.findIdx? (fun v => v.name = input) = some i := h
  rw [position?, List.findIdx?_append, h']
  rfl

theorem exists_of_position? {i : Nat} (hi : g.position? name = some i) :
    ∃ v, g.variables[i]? = some v ∧ v.name = name := by
  obtain ⟨hlt, hname, _⟩ := List.findIdx?_eq_some_iff_getElem.mp hi
  exact ⟨g.variables[i], List.getElem?_eq_getElem hlt, of_decide_eq_true hname⟩

theorem position?_of_getElem? {i : Nat} {v : Variable}
    (hnames : (g.variables.map Variable.name).Nodup) (hv : g.variables[i]? = some v) :
    g.position? v.name = some i := by
  obtain ⟨j, hj⟩ : ∃ j, g.position? v.name = some j := by
    refine exists_position (mem_names.mpr ⟨v, List.mem_of_getElem? hv, rfl⟩)
  obtain ⟨w, hw, hname⟩ := exists_of_position? hj
  have hlt : j < (g.variables.map Variable.name).length := by
    rw [List.length_map]
    exact position?_lt hj
  have hsame : (g.variables.map Variable.name)[j]? = (g.variables.map Variable.name)[i]? := by
    rw [List.getElem?_map, List.getElem?_map, hw, hv, Option.map_some, Option.map_some, hname]
  rw [hj, (List.getElem?_inj hlt hnames).mp hsame]

theorem Applies.append {r : Registry} {v : Variable} {b : DerivedBinding} (h : g.Applies r v b)
    (vs : List Variable) : (⟨g.variables ++ vs⟩ : Graph).Applies r v b := by
  obtain ⟨f, positions, hf, hnamed, hv⟩ := h
  exact ⟨f, positions, hf, hnamed.imp fun _ _ hi => position?_append hi vs, hv⟩

/-! ## Declaring one binding -/

/-- Inputs that fit resolve to their positions. -/
theorem resolveInputs_of_fits (hnames : (g.typings.map Prod.fst).Nodup) {inputs : List String}
    {types : List ValueType}
    (h : List.Forall₂ (fun input t => (input, t) ∈ g.typings) inputs types) (name : String) :
    ∃ positions, g.resolveInputs name inputs types = .ok positions ∧
      List.Forall₂ (fun i input => g.position? input = some i) positions inputs := by
  induction h with
  | nil => exact ⟨[], rfl, .nil⟩
  | @cons input t inputs types hinput _ ih =>
      obtain ⟨positions, hpositions, hnamed⟩ := ih
      obtain ⟨i, hi⟩ := exists_position (List.mem_map_of_mem (f := Prod.fst) hinput)
      refine ⟨i :: positions, ?_, .cons hi hnamed⟩
      simp only [resolveInputs, hi, type?_eq_some_of_mem hnames hinput, if_true, hpositions]
      rfl

/-- Inputs fail to resolve as the first of them that offends. -/
theorem resolveInputs_of_offence (hnames : (g.typings.map Prod.fst).Nodup) {names : List String}
    {inputs : List String} {types : List ValueType} {e : GraphError}
    (h : ScoringSettings.InputOffence names g.typings name inputs types e) :
    (g.resolveInputs name inputs types).mapError (GraphError.orForward names) = .error e := by
  induction h with
  | @typeMismatch input inputs t types found hfound hne =>
      obtain ⟨i, hi⟩ := exists_position (List.mem_map_of_mem (f := Prod.fst) hfound)
      simp only [resolveInputs, hi, type?_eq_some_of_mem hnames hfound, if_neg hne]
      rfl
  | @forwardReference input inputs t types hinput hlater =>
      rw [← position?_isSome_iff, Option.isSome_iff_ne_none, not_not] at hinput
      have hcontains : names.contains input = true := List.contains_iff_mem.mpr hlater
      simp only [resolveInputs, hinput, Except.mapError, GraphError.orForward, hcontains, if_true]
  | @unresolvedInput input inputs t types hinput hnever =>
      rw [← position?_isSome_iff, Option.isSome_iff_ne_none, not_not] at hinput
      rw [← List.contains_iff_mem, Bool.not_eq_true] at hnever
      simp only [resolveInputs, hinput, Except.mapError, GraphError.orForward, hnever,
        Bool.false_eq_true, if_false]
  | @later input inputs t types e hinput _ ih =>
      obtain ⟨i, hi⟩ := exists_position (List.mem_map_of_mem (f := Prod.fst) hinput)
      simp only [resolveInputs, hi, type?_eq_some_of_mem hnames hinput, if_true]
      cases hrest : g.resolveInputs name inputs types with
      | ok positions =>
          rw [hrest] at ih
          cases ih
      | error e' =>
          rw [hrest] at ih
          exact ih

theorem leaf_of_fresh {b : LeafBinding} (h : b.name ∉ g.typings.map Prod.fst) :
    g.leaf b.name b.field b.kind = .ok (g.push b.declared) := by
  rw [leaf, checkUnique_of_fresh h]
  rfl

theorem leaf_of_declared {b : LeafBinding} (h : b.name ∈ g.typings.map Prod.fst) :
    g.leaf b.name b.field b.kind = .error (.duplicateName b.name) := by
  rw [leaf, checkUnique_of_declared h]
  rfl

/-- A binding that fits is declared, and applies its function to what its inputs name. -/
theorem derived_of_fits (hnames : (g.typings.map Prod.fst).Nodup) {r : Registry}
    {b : DerivedBinding} (hfresh : b.name ∉ g.typings.map Prod.fst) (hfits : b.Fits r g.typings) :
    ∃ f v, r.get? b.function = some f ∧ g.derived b.name b.inputs f = .ok (g.push v) ∧
      v.name = b.name ∧ v.type = f.output ∧ g.Applies r v b := by
  obtain ⟨f, hf, hinputs⟩ := hfits
  obtain ⟨positions, hpositions, hnamed⟩ := resolveInputs_of_fits hnames hinputs b.name
  refine ⟨f, ⟨b.name, f.output, .derived positions f⟩, hf, ?_, rfl, rfl, f, positions, hf, hnamed,
    rfl⟩
  rw [derived, checkUnique_of_fresh hfresh, hpositions, if_neg (not_not.mpr hinputs.length_eq)]
  rfl

/-- A binding that offends is not declared, and neither is what follows it. -/
theorem declareDerived_of_offence (hnames : (g.typings.map Prod.fst).Nodup) {r : Registry}
    {names : List String} {b : DerivedBinding} {e : GraphError}
    (h : ScoringSettings.Offence r names g.typings b e) (rest : List DerivedBinding) :
    declareDerived r names g (b :: rest) = .error e := by
  cases h with
  | unknownFunction hf => simp only [declareDerived, hf]
  | duplicateName hf hdeclared =>
      simp only [declareDerived, hf, derived, checkUnique_of_declared hdeclared]
      rfl
  | @arityMismatch f hf hfresh hlength =>
      have hderived : g.derived b.name b.inputs f =
          .error (.arityMismatch b.name f.inputs.length b.inputs.length) := by
        rw [derived, checkUnique_of_fresh hfresh]
        exact if_pos hlength
      simp only [declareDerived, hf, hderived]
      rfl
  | @input f _ hf hfresh hlength hinput =>
      have hresolve := resolveInputs_of_offence hnames hinput
      have hderived : g.derived b.name b.inputs f =
          (g.resolveInputs b.name b.inputs f.inputs).map fun positions =>
            g.push ⟨b.name, f.output, .derived positions f⟩ := by
        rw [derived, checkUnique_of_fresh hfresh, if_neg (not_not.mpr hlength)]
        cases g.resolveInputs b.name b.inputs f.inputs <;> rfl
      simp only [declareDerived, hf, hderived]
      cases hpositions : g.resolveInputs b.name b.inputs f.inputs with
      | ok positions =>
          rw [hpositions] at hresolve
          cases hresolve
      | error e' =>
          rw [hpositions] at hresolve
          cases hresolve
          rfl

/-! ## Declaring bindings in order -/

theorem not_mem_of_nodup_append {α : Type} {xs ys : List α} {y : α}
    (h : (xs ++ y :: ys).Nodup) : y ∉ xs :=
  fun hmem => (List.nodup_append.mp h).2.2 y hmem y List.mem_cons_self rfl

theorem declareLeaves_append (g : Graph) (bindings others : List LeafBinding) :
    g.declareLeaves (bindings ++ others) =
      g.declareLeaves bindings >>= fun g => g.declareLeaves others := by
  induction bindings generalizing g with
  | nil => rfl
  | cons b rest ih =>
      rw [List.cons_append, declareLeaves, declareLeaves]
      cases g.leaf b.name b.field b.kind with
      | error e => rfl
      | ok g' => exact ih g'

theorem declareDerived_append (r : Registry) (names : List String) (g : Graph)
    (bindings others : List DerivedBinding) :
    declareDerived r names g (bindings ++ others) =
      declareDerived r names g bindings >>= fun g => declareDerived r names g others := by
  induction bindings generalizing g with
  | nil => rfl
  | cons b rest ih =>
      rw [List.cons_append, declareDerived, declareDerived]
      cases r.get? b.function with
      | none => rfl
      | some f =>
          simp only
          cases (g.derived b.name b.inputs f).mapError (GraphError.orForward names) with
          | error e => rfl
          | ok g' => exact ih g'

/-- Leaves with distinct names are declared in order. -/
theorem declareLeaves_of_nodup {bindings : List LeafBinding}
    (h : (g.typings.map Prod.fst ++ bindings.map LeafBinding.name).Nodup) :
    g.declareLeaves bindings = .ok ⟨g.variables ++ bindings.map LeafBinding.declared⟩ := by
  induction bindings generalizing g with
  | nil => simp [declareLeaves]
  | cons b rest ih =>
      have hfresh : b.name ∉ g.typings.map Prod.fst := not_mem_of_nodup_append h
      have hrest : ((g.push b.declared).typings.map Prod.fst ++
          rest.map LeafBinding.name).Nodup := by
        simpa [typings_push, LeafBinding.declared] using h
      rw [declareLeaves, leaf_of_fresh hfresh]
      refine (ih hrest).trans ?_
      simp [push]

/-- Derived bindings with distinct names that each fit what is declared before are declared in
order. -/
theorem declareDerived_of_fits {r : Registry} {bindings : List DerivedBinding}
    (hnames : (g.typings.map Prod.fst ++ bindings.map DerivedBinding.name).Nodup)
    (hfits : ∀ before b after, bindings = before ++ b :: after →
      b.Fits r (g.typings ++ before.filterMap (DerivedBinding.typing? r)))
    (names : List String) :
    ∃ vs, declareDerived r names g bindings = .ok ⟨g.variables ++ vs⟩ ∧
      (⟨g.variables ++ vs⟩ : Graph).typings =
        g.typings ++ bindings.filterMap (DerivedBinding.typing? r) ∧
      List.Forall₂ ((⟨g.variables ++ vs⟩ : Graph).Applies r) vs bindings := by
  induction bindings generalizing g with
  | nil => exact ⟨[], by simp [declareDerived], by simp, .nil⟩
  | cons b rest ih =>
      have hfirst := hfits [] b rest rfl
      rw [List.filterMap_nil, List.append_nil] at hfirst
      have hfresh : b.name ∉ g.typings.map Prod.fst := not_mem_of_nodup_append hnames
      obtain ⟨f, v, hf, hderived, hname, htype, hv⟩ :=
        derived_of_fits (List.nodup_append.mp hnames).1 hfresh hfirst
      have hpushed : (g.push v).typings = g.typings ++ [(b.name, f.output)] := by
        rw [typings_push, hname, htype]
      have htyping := DerivedBinding.typing?_eq_some hf
      have hrestFits : ∀ before b' after, rest = before ++ b' :: after →
          b'.Fits r ((g.push v).typings ++ before.filterMap (DerivedBinding.typing? r)) := by
        intro before b' after hrest
        have hnext := hfits (b :: before) b' after (congrArg (List.cons b) hrest)
        rw [List.filterMap_cons_some htyping] at hnext
        rw [hpushed, List.append_assoc]
        exact hnext
      obtain ⟨vs, hdeclared, htypings, hvs⟩ := ih (by simpa [hpushed] using hnames) hrestFits
      have hvariables : (g.push v).variables ++ vs = g.variables ++ v :: vs := by simp [push]
      rw [hvariables] at hdeclared htypings hvs
      refine ⟨v :: vs, ?_, ?_, .cons (hv.append (v :: vs)) hvs⟩
      · simp only [declareDerived, hf, hderived]
        exact hdeclared
      · rw [htypings, hpushed, List.filterMap_cons_some htyping, List.append_assoc]
        rfl

end Graph

/-! ## Settings and their graphs -/

namespace ScoringSettings

variable {leaf : List LeafBinding} {before : List DerivedBinding} {s : ScoringSettings}
  {r : Registry} {e : GraphError}

/-- The bindings of well-formed settings are declared, whatever bindings follow them. -/
theorem WellFormed.declares (h : WellFormed ⟨leaf, before⟩ r) (names : List String) :
    Graph.empty.declareLeaves leaf = .ok ⟨leaf.map LeafBinding.declared⟩ ∧
      ∃ g, Graph.declareDerived r names ⟨leaf.map LeafBinding.declared⟩ before = .ok g ∧
        g.typings = typings ⟨leaf, before⟩ r before ∧ g.Lists ⟨leaf, before⟩ r := by
  have hnames : (leaf.map LeafBinding.name ++ before.map DerivedBinding.name).Nodup := h.names
  have htypings : Graph.typings ⟨leaf.map LeafBinding.declared⟩ =
      leaf.map fun b => (b.name, b.kind.type) := by
    rw [Graph.typings, List.map_map]
    rfl
  have hleafNames : (Graph.typings ⟨leaf.map LeafBinding.declared⟩).map Prod.fst =
      leaf.map LeafBinding.name := by
    rw [htypings, List.map_map]
    rfl
  refine ⟨Graph.declareLeaves_of_nodup (List.nodup_append.mp hnames).1, ?_⟩
  obtain ⟨vs, hdeclared, hlisted, hvs⟩ := Graph.declareDerived_of_fits
    (g := ⟨leaf.map LeafBinding.declared⟩) (by rw [hleafNames]; exact hnames)
    (by rw [htypings]; exact h.fits) names
  refine ⟨_, hdeclared, ?_, vs, rfl, hvs⟩
  rw [hlisted, htypings]
  rfl

theorem WellFormed.exists_graph (h : s.WellFormed r) :
    ∃ g, Graph.ofSettings s r = .ok g ∧ g.Lists s r := by
  obtain ⟨leaf, derived⟩ := s
  obtain ⟨hleaves, g, hg, _, hlists⟩ := h.declares (ScoringSettings.names ⟨leaf, derived⟩)
  refine ⟨g, ?_, hlists⟩
  rw [Graph.ofSettings, hleaves]
  exact hg

/-- The first offence is the error. -/
theorem FirstOffence.ofSettings_eq (h : s.FirstOffence r e) : Graph.ofSettings s r = .error e := by
  rw [Graph.ofSettings]
  cases h with
  | @leaf before b after hsplit hbefore hname =>
      have hdeclared : b.name ∈ (Graph.typings ⟨before.map LeafBinding.declared⟩).map Prod.fst := by
        rw [Graph.typings, List.map_map, List.map_map]
        exact hname
      rw [hsplit, Graph.declareLeaves_append, (hbefore.declares []).1]
      simp only [bind, Except.bind, Graph.declareLeaves, Graph.leaf_of_declared hdeclared]
  | @derived before b after e hsplit hbefore hoffence =>
      obtain ⟨hleaves, g, hg, htypings, _⟩ := hbefore.declares s.names
      have hnodup : (g.typings.map Prod.fst).Nodup := by
        rw [htypings, hbefore.typings_names]
        exact hbefore.names
      have htyped : s.typings r before = g.typings := htypings.symm
      rw [htyped] at hoffence
      have hrest := Graph.declareDerived_of_offence hnodup hoffence after
      rw [hleaves, hsplit]
      change Graph.declareDerived r s.names ⟨s.leaf.map LeafBinding.declared⟩
        (before ++ b :: after) = .error e
      rw [Graph.declareDerived_append, hg]
      exact hrest

end ScoringSettings

/-- A variable of a wired graph depends on earlier ones only. -/
theorem Graph.Wired.acyclic {g : Graph} (hg : g.Wired) : g.Acyclic := by
  have hlt : ∀ i j, Relation.TransGen g.DependsOn i j → j < i := by
    intro i j h
    induction h with
    | single h =>
        obtain ⟨v, inputs, f, hv, hs, hj⟩ := h
        exact hg.input_lt hv hs _ hj
    | tail _ h ih =>
        obtain ⟨v, inputs, f, hv, hs, hj⟩ := h
        exact Nat.lt_trans (hg.input_lt hv hs _ hj) ih
  exact fun i h => Nat.lt_irrefl i (hlt i i h)

/-- Settings give a graph exactly if they are well formed. The graph lists their bindings and has no
cycle. An error is the first offence of the settings, and the first offence is the error. -/
theorem ofSettings_iff_wellFormed (s : ScoringSettings) (r : Registry) :
    ((∃ g, Graph.ofSettings s r = .ok g) ↔ s.WellFormed r) ∧
      (∀ g, Graph.ofSettings s r = .ok g → g.Lists s r ∧ g.Acyclic) ∧
      ∀ e, Graph.ofSettings s r = .error e ↔ s.FirstOffence r e := by
  rcases s.wellFormed_or_firstOffence r with h | ⟨e, h⟩
  · obtain ⟨g, hg, hlists⟩ := h.exists_graph
    refine ⟨⟨fun _ => h, fun _ => ⟨g, hg⟩⟩, fun g' hg' => ?_, fun e => ⟨fun he => ?_, fun he => ?_⟩⟩
    · cases hg.symm.trans hg'
      exact ⟨hlists, (Graph.wired_of_ofSettings hg).acyclic⟩
    · cases hg.symm.trans he
    · exact he.ofSettings_eq
  · have he := h.ofSettings_eq
    refine ⟨⟨?_, fun hformed => ?_⟩, fun g hg => ?_, fun e' => ⟨fun he' => ?_, fun h' => ?_⟩⟩
    · rintro ⟨g, hg⟩
      cases he.symm.trans hg
    · obtain ⟨g, hg, _⟩ := hformed.exists_graph
      exact ⟨g, hg⟩
    · cases he.symm.trans hg
    · cases he.symm.trans he'
      exact h
    · exact h'.ofSettings_eq

end Catalogue
