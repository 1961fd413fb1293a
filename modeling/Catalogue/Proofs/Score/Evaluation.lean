import Catalogue.Proofs.Score.Wiring

/-! # Direct evaluation of scoring graphs

The value of a variable at a place, computed afresh: a leaf reads its field there, and a derived
variable evaluates its inputs in order, fails as the first of them that fails, and otherwise
applies its function to their values. Nothing is kept between two evaluations. -/

namespace Catalogue

/-- Values asked for in order, up to the first failure. There is no answer if one that is asked
for does not exist. -/
def valuesOf (value : Nat → Option (Except ScoreError Value)) :
    List Nat → Option (Except ScoreError (List Value))
  | [] => some (.ok [])
  | i :: rest =>
    match value i with
    | none => none
    | some (.error e) => some (.error e)
    | some (.ok v) => (valuesOf value rest).map fun vs => vs.map (v :: ·)

def Arguments.ofValues? : (types : List ValueType) → List Value → Option (Arguments types)
  | [], [] => some ()
  | t :: ts, v :: vs =>
    match v.as? t, Arguments.ofValues? ts vs with
    | some a, some as => some (a, as)
    | _, _ => none
  | _, _ => none

def Operation.applyTo? (f : Operation) (values : List Value) : Option Value :=
  (Arguments.ofValues? f.inputs values).map fun as => ⟨f.output, f.apply as⟩

def Variable.evaluate (v : Variable) (p : Place) (value : Nat → Option (Except ScoreError Value)) :
    Option (Except ScoreError Value) :=
  match v.source with
  | .leaf field kind => (Field.ofName? field).map fun f => p.read f kind
  | .derived inputs f =>
    match valuesOf value inputs with
    | none => none
    | some (.error e) => some (.error e)
    | some (.ok values) => (f.applyTo? values).map .ok

/-- The value at a position among variables, latest first. A variable may use those before it. -/
def evaluateIn (p : Place) : List Variable → Nat → Option (Except ScoreError Value)
  | [], _ => none
  | v :: earlier, i =>
    if i = earlier.length then v.evaluate p (evaluateIn p earlier) else evaluateIn p earlier i

namespace Graph

/-- The value of the variable at a position, computed afresh at a place. -/
def evaluate? (g : Graph) (p : Place) (i : Nat) : Option (Except ScoreError Value) :=
  evaluateIn p g.variables.reverse i

def valueAt? (g : Graph) (p : Place) (name : String) : Option (Except ScoreError Value) :=
  (g.position? name).bind (g.evaluate? p)

def scoreAt? (g : Graph) (p : Place) (name : String) : Option (Except ScoreError Float32) :=
  match g.valueAt? p name with
  | some (.ok v) => (v.as? .float).map .ok
  | some (.error e) => some (.error e)
  | none => none

end Graph

/-! ## The equation of evaluation -/

theorem valuesOf_congr {value other : Nat → Option (Except ScoreError Value)} {inputs : List Nat}
    (h : ∀ i ∈ inputs, value i = other i) : valuesOf value inputs = valuesOf other inputs := by
  induction inputs with
  | nil => rfl
  | cons i rest ih =>
      simp only [valuesOf, h i (by simp), ih fun j hj => h j (by simp [hj])]

/-- Later variables do not matter to earlier ones. -/
theorem evaluateIn_append (p : Place) (later earlier : List Variable) {i : Nat}
    (h : i < earlier.length) : evaluateIn p (later ++ earlier) i = evaluateIn p earlier i := by
  induction later with
  | nil => rfl
  | cons v later ih =>
      have hne : i ≠ (later ++ earlier).length := by
        rw [List.length_append]
        omega
      simp only [List.cons_append, evaluateIn, hne, ite_false]
      exact ih

namespace Graph

/-- A variable is evaluated from those declared before it. -/
theorem evaluate?_eq_take {g : Graph} {p : Place} {i : Nat} {v : Variable}
    (h : g.variables[i]? = some v) :
    g.evaluate? p i = v.evaluate p (evaluateIn p (g.variables.take i).reverse) := by
  obtain ⟨hi, hv⟩ := List.getElem?_eq_some_iff.mp h
  have hlen : i = (g.variables.take i).reverse.length := by simp; omega
  have hsplit : g.variables.reverse =
      (g.variables.drop (i + 1)).reverse ++ v :: (g.variables.take i).reverse := by
    conv_lhs => rw [← List.take_append_drop i g.variables, List.drop_eq_getElem_cons hi, hv]
    simp
  rw [evaluate?, hsplit, evaluateIn_append _ _ _ (by rw [List.length_cons]; omega), evaluateIn,
    if_pos hlen]

theorem evaluateIn_take {g : Graph} {p : Place} {i j : Nat} (hj : j < i)
    (hi : i ≤ g.variables.length) :
    evaluateIn p (g.variables.take i).reverse j = g.evaluate? p j := by
  have hsplit : g.variables.reverse =
      (g.variables.drop i).reverse ++ (g.variables.take i).reverse := by
    rw [← List.reverse_append, List.take_append_drop]
  rw [evaluate?, hsplit, evaluateIn_append]
  simp only [List.length_reverse, List.length_take]
  omega

theorem Wired.input_lt {g : Graph} (hg : g.Wired) {i : Nat} {v : Variable} {inputs : List Nat}
    {f : Operation} (h : g.variables[i]? = some v) (hs : v.source = .derived inputs f) :
    ∀ j ∈ inputs, j < i := by
  have hsupplies := ((hg i v h).derived hs).2
  exact ((List.forall₂_and_left _ _).mp hsupplies).1

/-- In a wired graph a variable is evaluated from the values of the variables it names. -/
theorem Wired.evaluate?_eq {g : Graph} (hg : g.Wired) {p : Place} {i : Nat} {v : Variable}
    (h : g.variables[i]? = some v) : g.evaluate? p i = v.evaluate p (g.evaluate? p) := by
  have hi : i ≤ g.variables.length := Nat.le_of_lt (List.getElem?_eq_some_iff.mp h).1
  rw [evaluate?_eq_take h, Variable.evaluate, Variable.evaluate]
  cases hs : v.source with
  | leaf field kind => rfl
  | derived inputs f =>
      have hcongr : valuesOf (evaluateIn p (g.variables.take i).reverse) inputs =
          valuesOf (g.evaluate? p) inputs :=
        valuesOf_congr fun j hj => evaluateIn_take (hg.input_lt h hs j hj) hi
      simp only [hcongr]

theorem evaluate?_eq_none {g : Graph} {p : Place} {i : Nat} (h : g.variables[i]? = none) :
    g.evaluate? p i = none := by
  have hle : g.variables.length ≤ i := List.getElem?_eq_none_iff.mp h
  have key : ∀ vs : List Variable, vs.length ≤ i → evaluateIn p vs i = none := by
    intro vs
    induction vs with
    | nil => exact fun _ => rfl
    | cons v vs ih =>
        intro hvs
        have hlen : vs.length + 1 ≤ i := hvs
        have hne : i ≠ vs.length := by omega
        simp only [evaluateIn, hne, ite_false]
        exact ih (by omega)
  exact key _ (by simpa using hle)

end Graph

end Catalogue
