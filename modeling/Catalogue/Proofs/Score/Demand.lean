import Catalogue.Proofs.Score.Memo
import Mathlib.Logic.Relation

/-! # What a read asks for

Evaluating a variable asks for its inputs in order, up to the first that fails, and each of them
for its own. A derived variable succeeds exactly if all its inputs do. -/

namespace Catalogue.Graph

open Relation

def inputsAt (g : Graph) (i : Nat) : List Nat :=
  match (g.variables[i]?).map Variable.source with
  | some (.derived inputs _) => inputs
  | _ => []

def Uses (g : Graph) (i j : Nat) : Prop := j ∈ g.inputsAt i

def Succeeds (g : Graph) (p : Place) (i : Nat) : Prop := ∃ v, g.evaluate? p i = some (.ok v)

/-- Evaluating positions in order, up to the first failure, asks for a position: for the first of
them, for what that asks for, or, if it succeeds, for what the rest asks for. -/
inductive Demands (g : Graph) (p : Place) : List Nat → Nat → Prop
  | here {i : Nat} {rest : List Nat} : Demands g p (i :: rest) i
  | inside {i j : Nat} {rest : List Nat} : Demands g p (g.inputsAt i) j → Demands g p (i :: rest) j
  | later {i j : Nat} {rest : List Nat} : g.Succeeds p i → Demands g p rest j →
      Demands g p (i :: rest) j

variable {g : Graph} {p : Place} {i j : Nat} {inputs : List Nat}

theorem inputsAt_derived {v : Variable} {f : Operation} (hv : g.variables[i]? = some v)
    (hs : v.source = .derived inputs f) : g.inputsAt i = inputs := by
  simp only [inputsAt, hv, Option.map_some, hs]

theorem inputsAt_leaf {v : Variable} {field : String} {kind : FieldKind}
    (hv : g.variables[i]? = some v) (hs : v.source = .leaf field kind) : g.inputsAt i = [] := by
  simp only [inputsAt, hv, Option.map_some, hs]

/-! ## Demand -/

theorem not_demands_nil : ¬g.Demands p [] j := by
  intro h
  cases h

theorem demands_single_iff : g.Demands p [i] j ↔ j = i ∨ g.Demands p (g.inputsAt i) j := by
  constructor
  · intro h
    cases h with
    | here => exact .inl rfl
    | inside h => exact .inr h
    | later _ h => exact absurd h not_demands_nil
  · rintro (rfl | h)
    · exact .here
    · exact .inside h

theorem demands_cons_iff {rest : List Nat} :
    g.Demands p (i :: rest) j ↔ g.Demands p [i] j ∨ g.Succeeds p i ∧ g.Demands p rest j := by
  rw [demands_single_iff]
  constructor
  · intro h
    cases h with
    | here => exact .inl (.inl rfl)
    | inside h => exact .inl (.inr h)
    | later hi h => exact .inr ⟨hi, h⟩
  · rintro ((rfl | h) | ⟨hi, h⟩)
    · exact .here
    · exact .inside h
    · exact .later hi h

/-- Positions that all succeed are all asked for. -/
theorem demands_of_mem (hall : ∀ i ∈ inputs, g.Succeeds p i) (hj : j ∈ inputs) :
    g.Demands p inputs j := by
  induction inputs with
  | nil => cases hj
  | cons i rest ih =>
      rcases List.mem_cons.mp hj with rfl | hj
      · exact .here
      · exact .later (hall i List.mem_cons_self)
          (ih (fun k hk => hall k (List.mem_cons_of_mem i hk)) hj)

/-- What is asked for is in every set that has the positions and the inputs of what it has. -/
theorem Demands.of_closed {S : Nat → Prop} (h : g.Demands p inputs j) (hinputs : ∀ i ∈ inputs, S i)
    (closed : ∀ i, S i → ∀ k ∈ g.inputsAt i, S k) : S j := by
  induction h with
  | here => exact hinputs _ List.mem_cons_self
  | inside _ ih => exact ih (closed _ (hinputs _ List.mem_cons_self))
  | later _ _ ih => exact ih fun k hk => hinputs k (List.mem_cons_of_mem _ hk)

theorem Demands.reachable (h : g.Demands p inputs j) : ∃ i ∈ inputs, ReflTransGen g.Uses i j := by
  refine h.of_closed (S := fun k => ∃ i ∈ inputs, ReflTransGen g.Uses i k)
    (fun i hi => ⟨i, hi, .refl⟩) ?_
  rintro k ⟨i, hi, hreach⟩ m hm
  exact ⟨i, hi, hreach.tail hm⟩

theorem Wired.inputsAt_lt (hg : g.Wired) (hj : j ∈ g.inputsAt i) : j < i := by
  unfold inputsAt at hj
  split at hj
  · rename_i inputs f hsource
    obtain ⟨v, hv, hs⟩ := Option.map_eq_some_iff.mp hsource
    exact hg.input_lt hv hs j hj
  · cases hj

/-- What the inputs of a variable ask for is declared before it. -/
theorem Wired.demands_lt (hg : g.Wired) (h : g.Demands p (g.inputsAt i) j) : j < i :=
  h.of_closed (S := (· < i)) (fun _ hk => hg.inputsAt_lt hk)
    fun _ hk _ hm => Nat.lt_trans (hg.inputsAt_lt hm) hk

/-! ## Success -/

theorem succeeds_of_valuesOf {values : List Value}
    (h : valuesOf (g.evaluate? p) inputs = some (.ok values)) : ∀ j ∈ inputs, g.Succeeds p j := by
  induction inputs generalizing values with
  | nil => exact fun j hj => absurd hj List.not_mem_nil
  | cons i rest ih =>
      rw [valuesOf] at h
      split at h
      · cases h
      · cases h
      · rename_i v hv
        obtain ⟨r, hr, hvalues⟩ := Option.map_eq_some_iff.mp h
        cases r with
        | error e => cases hvalues
        | ok vs =>
            intro j hj
            rcases List.mem_cons.mp hj with rfl | hj
            · exact ⟨v, hv⟩
            · exact ih hr j hj

/-- Inputs of the right types that all succeed give arguments. -/
theorem Wired.exists_arguments (hg : g.Wired) {types : List ValueType}
    (htypes : List.Forall₂ (fun j t => g.typeAt? j = some t) inputs types)
    (hall : ∀ j ∈ inputs, g.Succeeds p j) :
    ∃ values arguments, Gathered (g.direct p) inputs (.ok values) ∧
      Arguments.ofValues? types values = some arguments := by
  induction htypes with
  | nil => exact ⟨[], (), .nil, rfl⟩
  | @cons j t inputs types ht _ ih =>
      obtain ⟨values, arguments, hgathered, harguments⟩ :=
        ih fun k hk => hall k (List.mem_cons_of_mem j hk)
      obtain ⟨v, hv⟩ := hall j List.mem_cons_self
      have htype : v.type = t := Option.some.inj ((hg.evaluate?_type hv).symm.trans ht)
      subst htype
      exact ⟨v :: values, (v.data, arguments), .cons hv hgathered,
        Arguments.ofValues?_cons (Value.as?_self _ _) harguments⟩

/-- A derived variable succeeds exactly if all its inputs do. -/
theorem Wired.succeeds_derived_iff (hg : g.Wired) {v : Variable} {f : Operation}
    (hv : g.variables[i]? = some v) (hs : v.source = .derived inputs f) :
    g.Succeeds p i ↔ ∀ j ∈ inputs, g.Succeeds p j := by
  constructor
  · rintro ⟨x, hx⟩
    rw [hg.evaluate?_eq hv, Variable.evaluate] at hx
    simp only [hs] at hx
    split at hx
    · cases hx
    · cases hx
    · rename_i values hvalues
      exact succeeds_of_valuesOf hvalues
  · intro hall
    have htypes := ((hg _ v hv).derived hs).2.imp fun _ _ h => h.2
    obtain ⟨values, arguments, hgathered, harguments⟩ := hg.exists_arguments htypes hall
    exact ⟨_, hg.direct_rules.applied hv hs hgathered harguments⟩

theorem Wired.inputs_succeed (hg : g.Wired) (h : g.Succeeds p i) :
    ∀ j ∈ g.inputsAt i, g.Succeeds p j := by
  intro j hj
  unfold inputsAt at hj
  split at hj
  · rename_i inputs f hsource
    obtain ⟨v, hv, hs⟩ := Option.map_eq_some_iff.mp hsource
    exact (hg.succeeds_derived_iff hv hs).mp h j hj
  · cases hj

end Catalogue.Graph
