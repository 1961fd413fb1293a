import Catalogue.Score.Graph
import Mathlib.Data.List.Forall2
import Mathlib.Data.List.Induction
import Mathlib.Data.List.Nodup

/-! # Well-formed settings

Settings are well formed if their names are distinct and every derived binding names a registered
function and, for each argument, a binding before it of the type that is taken there. Settings that
are not have a first binding that offends, and it has a first offence, in the order of the checks.
That one or the other holds is shown by adding one binding at the end after the other. -/

namespace Catalogue

abbrev Typings := List (String × ValueType)

def DerivedBinding.typing? (r : Registry) (b : DerivedBinding) : Option (String × ValueType) :=
  (r.get? b.function).map fun f => (b.name, f.output)

theorem DerivedBinding.typing?_eq_some {r : Registry} {b : DerivedBinding} {f : Operation}
    (h : r.get? b.function = some f) : b.typing? r = some (b.name, f.output) := by
  rw [typing?, h]
  rfl

/-- The function of a binding is registered, and for every argument it takes an input of its type is
declared. -/
def DerivedBinding.Fits (b : DerivedBinding) (r : Registry) (declared : Typings) : Prop :=
  ∃ f, r.get? b.function = some f ∧
    List.Forall₂ (fun input t => (input, t) ∈ declared) b.inputs f.inputs

namespace ScoringSettings

section

variable (s : ScoringSettings) (r : Registry)

def typings (before : List DerivedBinding) : Typings :=
  s.leaf.map (fun b => (b.name, b.kind.type)) ++ before.filterMap (DerivedBinding.typing? r)

/-- Names are distinct, and every derived binding fits what is declared before it. -/
structure WellFormed : Prop where
  names : s.names.Nodup
  fits : ∀ before b after, s.derived = before ++ b :: after → b.Fits r (s.typings r before)

/-- The first offence of inputs of a binding: one is declared with another type, or is not declared
yet, or is no name of the settings. -/
inductive InputOffence (names : List String) (declared : Typings) (name : String) :
    List String → List ValueType → GraphError → Prop where
  | typeMismatch {input inputs t types found} : (input, found) ∈ declared → found ≠ t →
      InputOffence names declared name (input :: inputs) (t :: types)
        (.typeMismatch name input t found)
  | forwardReference {input inputs t types} : input ∉ declared.map Prod.fst → input ∈ names →
      InputOffence names declared name (input :: inputs) (t :: types)
        (.forwardReference name input)
  | unresolvedInput {input inputs t types} : input ∉ declared.map Prod.fst → input ∉ names →
      InputOffence names declared name (input :: inputs) (t :: types)
        (.unresolvedInput name input)
  | later {input inputs t types e} : (input, t) ∈ declared →
      InputOffence names declared name inputs types e →
      InputOffence names declared name (input :: inputs) (t :: types) e

/-- The first offence of a derived binding, in the order of the checks. -/
inductive Offence (names : List String) (declared : Typings) (b : DerivedBinding) :
    GraphError → Prop where
  | unknownFunction : r.get? b.function = none →
      Offence names declared b (.unknownFunction b.name b.function)
  | duplicateName {f} : r.get? b.function = some f → b.name ∈ declared.map Prod.fst →
      Offence names declared b (.duplicateName b.name)
  | arityMismatch {f} : r.get? b.function = some f → b.name ∉ declared.map Prod.fst →
      b.inputs.length ≠ f.inputs.length →
      Offence names declared b (.arityMismatch b.name f.inputs.length b.inputs.length)
  | input {f e} : r.get? b.function = some f → b.name ∉ declared.map Prod.fst →
      b.inputs.length = f.inputs.length →
      InputOffence names declared b.name b.inputs f.inputs e → Offence names declared b e

/-- The offence of the first binding that offends, leaves first: the settings up to it are well
formed. -/
inductive FirstOffence : GraphError → Prop where
  | leaf {before b after} : s.leaf = before ++ b :: after → WellFormed ⟨before, []⟩ r →
      b.name ∈ before.map LeafBinding.name → FirstOffence (.duplicateName b.name)
  | derived {before b after e} : s.derived = before ++ b :: after →
      WellFormed ⟨s.leaf, before⟩ r → Offence r s.names (s.typings r before) b e → FirstOffence e

end

/-! ## Adding a binding at the end -/

variable {leaf : List LeafBinding} {before : List DerivedBinding} {b : DerivedBinding}
  {s : ScoringSettings} {r : Registry} {e : GraphError}

theorem wellFormed_leaves_iff : WellFormed ⟨leaf, []⟩ r ↔ (leaf.map LeafBinding.name).Nodup := by
  have hnames : names ⟨leaf, []⟩ = leaf.map LeafBinding.name := List.append_nil _
  constructor
  · exact fun h => hnames ▸ h.names
  · exact fun h => ⟨hnames ▸ h, fun _ _ _ hsplit => absurd hsplit (by simp)⟩

theorem map_typing?_names {bindings : List DerivedBinding}
    (h : ∀ b ∈ bindings, ∃ f, r.get? b.function = some f) :
    (bindings.filterMap (DerivedBinding.typing? r)).map Prod.fst =
      bindings.map DerivedBinding.name := by
  induction bindings with
  | nil => rfl
  | cons b rest ih =>
      obtain ⟨f, hf⟩ := h b List.mem_cons_self
      have hrest := ih fun b' hb' => h b' (List.mem_cons_of_mem b hb')
      rw [List.filterMap_cons_some (DerivedBinding.typing?_eq_some hf), List.map_cons,
        List.map_cons, hrest]

/-- What is declared has the names of the settings, since all functions are registered. -/
theorem WellFormed.typings_names (h : s.WellFormed r) :
    (s.typings r s.derived).map Prod.fst = s.names := by
  have hregistered : ∀ b ∈ s.derived, ∃ f, r.get? b.function = some f := by
    intro b hb
    obtain ⟨before, after, hsplit⟩ := List.mem_iff_append.mp hb
    obtain ⟨f, hf, _⟩ := h.fits before b after hsplit
    exact ⟨f, hf⟩
  rw [typings, List.map_append, map_typing?_names hregistered, List.map_map]
  rfl

/-- Well-formed settings stay so with one more binding that fits under a new name. -/
theorem WellFormed.concat (h : WellFormed ⟨leaf, before⟩ r)
    (hfresh : b.name ∉ (typings ⟨leaf, before⟩ r before).map Prod.fst)
    (hfits : b.Fits r (typings ⟨leaf, before⟩ r before)) : WellFormed ⟨leaf, before ++ [b]⟩ r := by
  constructor
  · have hnames : ScoringSettings.names ⟨leaf, before ++ [b]⟩ =
        ScoringSettings.names ⟨leaf, before⟩ ++ [b.name] := by
      simp [ScoringSettings.names]
    rw [h.typings_names] at hfresh
    rw [hnames, List.nodup_append]
    refine ⟨h.names, List.nodup_singleton _, fun name hname other hother heq => hfresh ?_⟩
    rw [← List.mem_singleton.mp hother, ← heq]
    exact hname
  · -- A split of the longer list is at its last binding or inside the shorter one.
    intro xs b' ys hsplit
    rcases List.eq_nil_or_concat ys with rfl | ⟨ys', y, rfl⟩
    · obtain ⟨rfl, hb⟩ := List.append_inj' hsplit rfl
      cases hb
      exact hfits
    · rw [List.concat_eq_append, ← List.cons_append, ← List.append_assoc] at hsplit
      obtain ⟨hbefore, _⟩ := List.append_inj' hsplit rfl
      exact h.fits xs b' ys' hbefore

/-! ## Well formed or not -/

theorem fits_or_offence_inputs (names : List String) (declared : Typings) (name : String)
    {inputs : List String} {types : List ValueType} (hlength : inputs.length = types.length) :
    List.Forall₂ (fun input t => (input, t) ∈ declared) inputs types ∨
      ∃ e, InputOffence names declared name inputs types e := by
  induction inputs generalizing types with
  | nil =>
      cases List.length_eq_zero_iff.mp hlength.symm
      exact .inl .nil
  | cons input inputs ih =>
      cases types with
      | nil => cases hlength
      | cons t types =>
          by_cases htyped : (input, t) ∈ declared
          · rcases ih (Nat.succ.inj hlength) with hfits | ⟨e, he⟩
            · exact .inl (.cons htyped hfits)
            · exact .inr ⟨e, .later htyped he⟩
          · by_cases hnamed : input ∈ declared.map Prod.fst
            · obtain ⟨⟨_, found⟩, hfound, rfl⟩ := List.mem_map.mp hnamed
              exact .inr ⟨_, .typeMismatch hfound fun heq => htyped (heq ▸ hfound)⟩
            · by_cases hlater : input ∈ names
              · exact .inr ⟨_, .forwardReference hnamed hlater⟩
              · exact .inr ⟨_, .unresolvedInput hnamed hlater⟩

theorem fits_or_offence (names : List String) (r : Registry) (declared : Typings)
    (b : DerivedBinding) :
    (b.name ∉ declared.map Prod.fst ∧ b.Fits r declared) ∨ ∃ e, Offence r names declared b e := by
  cases hf : r.get? b.function with
  | none => exact .inr ⟨_, .unknownFunction hf⟩
  | some f =>
      by_cases hfresh : b.name ∈ declared.map Prod.fst
      · exact .inr ⟨_, .duplicateName hf hfresh⟩
      · by_cases hlength : b.inputs.length = f.inputs.length
        · rcases fits_or_offence_inputs names declared b.name hlength with hfits | ⟨e, he⟩
          · exact .inl ⟨hfresh, f, hf, hfits⟩
          · exact .inr ⟨e, .input hf hfresh hlength he⟩
        · exact .inr ⟨_, .arityMismatch hf hfresh hlength⟩

theorem leaves_wellFormed_or (r : Registry) (leaf : List LeafBinding) :
    WellFormed ⟨leaf, []⟩ r ∨ ∃ before b after, leaf = before ++ b :: after ∧
      WellFormed ⟨before, []⟩ r ∧ b.name ∈ before.map LeafBinding.name := by
  induction leaf using List.reverseRecOn with
  | nil => exact .inl (wellFormed_leaves_iff.mpr .nil)
  | append_singleton leaf b ih =>
      rcases ih with h | ⟨before, b', after, rfl, hbefore, hname⟩
      · by_cases hname : b.name ∈ leaf.map LeafBinding.name
        · exact .inr ⟨leaf, b, [], rfl, h, hname⟩
        · have hnodup := wellFormed_leaves_iff.mp h
          refine .inl (wellFormed_leaves_iff.mpr ?_)
          rw [List.map_append, List.map_singleton]
          refine List.nodup_append.mpr ⟨hnodup, List.nodup_singleton _, ?_⟩
          rintro name hmem _ hother rfl
          exact hname (List.mem_singleton.mp hother ▸ hmem)
      · exact .inr ⟨before, b', after ++ [b], by simp, hbefore, hname⟩

/-- Of derived bindings, either all can be declared or there is a first that cannot. -/
theorem derived_wellFormed_or (names : List String) (h : WellFormed ⟨leaf, []⟩ r)
    (derived : List DerivedBinding) :
    WellFormed ⟨leaf, derived⟩ r ∨ ∃ before b after e, derived = before ++ b :: after ∧
      WellFormed ⟨leaf, before⟩ r ∧ Offence r names (typings ⟨leaf, before⟩ r before) b e := by
  induction derived using List.reverseRecOn with
  | nil => exact .inl h
  | append_singleton derived b ih =>
      rcases ih with hderived | ⟨before, b', after, e, rfl, hbefore, he⟩
      · rcases fits_or_offence names r (typings ⟨leaf, derived⟩ r derived) b with
          ⟨hfresh, hfits⟩ | ⟨e, he⟩
        · exact .inl (hderived.concat hfresh hfits)
        · exact .inr ⟨derived, b, [], e, rfl, hderived, he⟩
      · exact .inr ⟨before, b', after ++ [b], e, by simp, hbefore, he⟩

/-- Settings are well formed, or there is a first offence. -/
theorem wellFormed_or_firstOffence (s : ScoringSettings) (r : Registry) :
    s.WellFormed r ∨ ∃ e, s.FirstOffence r e := by
  obtain ⟨leaf, derived⟩ := s
  rcases leaves_wellFormed_or r leaf with h | ⟨before, b, after, hsplit, hbefore, hname⟩
  · rcases derived_wellFormed_or (names ⟨leaf, derived⟩) h derived with
      hderived | ⟨before, b, after, e, hsplit, hbefore, he⟩
    · exact .inl hderived
    · exact .inr ⟨e, .derived hsplit hbefore he⟩
  · exact .inr ⟨_, .leaf hsplit hbefore hname⟩

end ScoringSettings

end Catalogue
