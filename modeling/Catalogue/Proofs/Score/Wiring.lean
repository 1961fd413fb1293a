import Catalogue.Proofs.Outcome
import Catalogue.Score.Graph
import Mathlib.Data.List.Forall2

/-! # Wiring of scoring graphs

A declaration checks the inputs of a variable against the types its function takes, and keeps
their positions. The checks are about names; what is kept and used later are positions. A wired
graph is one in which every kept position lies before its variable and holds a variable of the
type that is taken there. Every graph that declarations or settings lead to is wired. -/

namespace Catalogue

inductive Declaration where
  | leaf (name field : String) (kind : FieldKind)
  | derived (name : String) (inputs : List String) (function : Operation)

namespace Graph

def declare (g : Graph) : Declaration → Except GraphError Graph
  | .leaf name field kind => g.leaf name field kind
  | .derived name inputs f => g.derived name inputs f

/-- Makes declarations one after the other. One that fails changes nothing. -/
def declareEach (g : Graph) : List Declaration → Graph
  | [] => g
  | d :: ds =>
    match g.declare d with
    | .ok next => next.declareEach ds
    | .error _ => g.declareEach ds

/-- The graphs there are: declared step by step, some steps possibly failing, or read off
settings. -/
def Declared (g : Graph) : Prop :=
  (∃ ds, g = empty.declareEach ds) ∨ ∃ s registry, ofSettings s registry = .ok g

def typeAt? (g : Graph) (i : Nat) : Option ValueType := (g.variables[i]?).map Variable.type

/-- An input at position `i` supplies a type if an earlier position holds a variable of it. -/
def Supplies (g : Graph) (i : Nat) (input : Nat) (t : ValueType) : Prop :=
  input < i ∧ g.typeAt? input = some t

/-- What is declared at a position has the type of its source and is supplied by its inputs. -/
def WiredAt (g : Graph) (i : Nat) (v : Variable) : Prop :=
  match v.source with
  | .leaf _ kind => v.type = kind.type
  | .derived inputs f => v.type = f.output ∧ List.Forall₂ (g.Supplies i) inputs f.inputs

def Wired (g : Graph) : Prop := ∀ i v, g.variables[i]? = some v → g.WiredAt i v

/-! ## Names and positions -/

theorem find?_eq_getElem?_position? (g : Graph) (name : String) :
    g.find? name = (g.position? name).bind (g.variables[·]?) :=
  List.find?_eq_bind_findIdx?_getElem?

theorem position?_lt {g : Graph} {name : String} {i : Nat} (h : g.position? name = some i) :
    i < g.variables.length :=
  (List.findIdx?_eq_some_iff_getElem.mp h).1

/-- The type of a name is the type at its position. -/
theorem type?_eq_typeAt? (g : Graph) (name : String) :
    g.type? name = (g.position? name).bind g.typeAt? := by
  rw [type?, find?_eq_getElem?_position?]
  cases g.position? name <;> rfl

theorem type?_isSome_iff (g : Graph) (name : String) :
    (g.type? name).isSome ↔ (g.position? name).isSome := by
  rw [type?_eq_typeAt?]
  cases h : g.position? name with
  | none => simp
  | some i => simp [typeAt?, List.getElem?_eq_getElem (position?_lt h)]

theorem typeAt?_lt {g : Graph} {i : Nat} {t : ValueType} (h : g.typeAt? i = some t) :
    i < g.variables.length := by
  obtain ⟨v, hv, _⟩ := Option.map_eq_some_iff.mp h
  exact (List.getElem?_eq_some_iff.mp hv).1

theorem WiredAt.derived {g : Graph} {i : Nat} {v : Variable} {inputs : List Nat} {f : Operation}
    (h : g.WiredAt i v) (hs : v.source = .derived inputs f) :
    v.type = f.output ∧ List.Forall₂ (g.Supplies i) inputs f.inputs := by
  simpa only [WiredAt, hs] using h

theorem WiredAt.leaf {g : Graph} {i : Nat} {v : Variable} {field : String} {kind : FieldKind}
    (h : g.WiredAt i v) (hs : v.source = .leaf field kind) : v.type = kind.type := by
  simpa only [WiredAt, hs] using h

/-! ## Declaring keeps a graph wired -/

theorem getElem?_concat_eq_some {α : Type} {l : List α} {x y : α} {i : Nat}
    (h : (l ++ [x])[i]? = some y) : l[i]? = some y ∨ i = l.length ∧ y = x := by
  rcases Nat.lt_or_ge i l.length with hlt | hge
  · rw [List.getElem?_append_left hlt] at h
    exact .inl h
  · rw [List.getElem?_append_right hge, List.getElem?_singleton] at h
    split at h
    · exact .inr ⟨by omega, (Option.some.inj h).symm⟩
    · cases h

theorem Supplies.push {g : Graph} {w : Variable} {i input : Nat} {t : ValueType}
    (h : g.Supplies i input t) : (g.push w).Supplies i input t := by
  have hlt : input < g.variables.length := typeAt?_lt h.2
  refine ⟨h.1, ?_⟩
  rw [typeAt?, Graph.push, List.getElem?_append_left hlt]
  exact h.2

theorem WiredAt.push {g : Graph} {v w : Variable} {i : Nat} (h : g.WiredAt i v) :
    (g.push w).WiredAt i v := by
  unfold WiredAt at h ⊢
  cases hs : v.source with
  | leaf field kind => simpa only [hs] using h
  | derived inputs f =>
      simp only [hs] at h ⊢
      exact ⟨h.1, h.2.imp fun _ _ => Supplies.push⟩

/-- Pushing a wired variable behind wired ones. -/
theorem Wired.push {g : Graph} {w : Variable} (hg : g.Wired)
    (hw : g.WiredAt g.variables.length w) : (g.push w).Wired := by
  intro i v hv
  rcases getElem?_concat_eq_some hv with hv | ⟨rfl, rfl⟩
  · exact (hg i v hv).push
  · exact hw.push

/-- The positions that inputs resolve to supply the types that are wanted. -/
theorem resolveInputs_supplies {g : Graph} {name : String} {inputs : List String}
    {types : List ValueType} {positions : List Nat}
    (h : g.resolveInputs name inputs types = .ok positions) (hlen : inputs.length = types.length) :
    List.Forall₂ (g.Supplies g.variables.length) positions types := by
  induction inputs generalizing types positions with
  | nil =>
      cases types with
      | nil =>
          cases h
          exact .nil
      | cons t ts => simp at hlen
  | cons input inputs ih =>
      cases types with
      | nil => simp at hlen
      | cons t ts =>
          simp only [resolveInputs] at h
          split at h
          · rename_i position found hp ht
            split at h
            · rename_i heq
              obtain ⟨rest, hr, h⟩ := bind_eq_ok_iff.mp h
              cases h
              rw [type?_eq_typeAt?, hp] at ht
              exact .cons ⟨position?_lt hp, heq ▸ ht⟩ (ih hr (by simpa using hlen))
            · cases h
          · cases h

theorem Wired.of_leaf {g next : Graph} {name field : String} {kind : FieldKind} (hg : g.Wired)
    (h : g.leaf name field kind = .ok next) : next.Wired := by
  obtain ⟨_, _, h⟩ := bind_eq_ok_iff.mp h
  cases h
  exact hg.push rfl

theorem Wired.of_derived {g next : Graph} {name : String} {inputs : List String} {f : Operation}
    (hg : g.Wired) (h : g.derived name inputs f = .ok next) : next.Wired := by
  obtain ⟨_, _, h⟩ := bind_eq_ok_iff.mp h
  split at h
  · cases h
  · rename_i hlen
    obtain ⟨positions, hr, h⟩ := bind_eq_ok_iff.mp h
    cases h
    exact hg.push ⟨rfl, resolveInputs_supplies hr (not_not.mp hlen)⟩

theorem Wired.of_declare {g next : Graph} {d : Declaration} (hg : g.Wired)
    (h : g.declare d = .ok next) : next.Wired := by
  cases d with
  | leaf name field kind => exact hg.of_leaf h
  | derived name inputs f => exact hg.of_derived h

/-! ## Every graph there is, is wired -/

theorem wired_empty : empty.Wired := by
  intro i v hv
  simp [empty] at hv

theorem Wired.declareEach {g : Graph} (hg : g.Wired) (ds : List Declaration) :
    (g.declareEach ds).Wired := by
  induction ds generalizing g with
  | nil => exact hg
  | cons d ds ih =>
      simp only [Graph.declareEach]
      cases h : g.declare d with
      | ok next => exact ih (hg.of_declare h)
      | error e => exact ih hg

theorem Wired.declareLeaves {g next : Graph} {bindings : List LeafBinding} (hg : g.Wired)
    (h : g.declareLeaves bindings = .ok next) : next.Wired := by
  induction bindings generalizing g with
  | nil =>
      cases h
      exact hg
  | cons b rest ih =>
      obtain ⟨g', hb, h⟩ := bind_eq_ok_iff.mp h
      exact ih (hg.of_leaf hb) h

theorem Wired.declareDerived {registry : Registry} {declared : List String} {g next : Graph}
    {bindings : List DerivedBinding} (hg : g.Wired)
    (h : declareDerived registry declared g bindings = .ok next) : next.Wired := by
  induction bindings generalizing g with
  | nil =>
      cases h
      exact hg
  | cons b rest ih =>
      simp only [Graph.declareDerived] at h
      split at h
      · cases h
      · obtain ⟨g', hd, h⟩ := bind_eq_ok_iff.mp h
        exact ih (hg.of_derived (mapError_eq_ok_iff.mp hd)) h

theorem wired_of_ofSettings {s : ScoringSettings} {registry : Registry} {g : Graph}
    (h : ofSettings s registry = .ok g) : g.Wired := by
  obtain ⟨g', hl, h⟩ := bind_eq_ok_iff.mp h
  exact (wired_empty.declareLeaves hl).declareDerived h

theorem Declared.wired {g : Graph} (h : g.Declared) : g.Wired := by
  rcases h with ⟨ds, rfl⟩ | ⟨s, registry, h⟩
  · exact wired_empty.declareEach ds
  · exact wired_of_ofSettings h

end Graph

end Catalogue
