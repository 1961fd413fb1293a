import Catalogue.Proofs.Score.Signs
import Catalogue.Proofs.Score.Unused

/-! # Scores of the built-in functions

What the built-in functions compute of fields has no minus sign, whatever the fields hold and
however the functions are composed. It is a number, unless infinity is multiplied by zero on the
way. -/

namespace Catalogue

/-! ## Arguments as values -/

def Arguments.values : (types : List ValueType) → Arguments types → List Value
  | [], _ => []
  | t :: ts, (a, as) => ⟨t, a⟩ :: Arguments.values ts as

theorem Arguments.eq_values {types : List ValueType} {values : List Value} {as : Arguments types}
    (h : Arguments.ofValues? types values = some as) : values = Arguments.values types as := by
  induction types generalizing values with
  | nil =>
      cases values with
      | nil => rfl
      | cons v vs => cases h
  | cons t ts ih =>
      cases values with
      | nil => cases h
      | cons v vs =>
          simp only [Arguments.ofValues?] at h
          split at h
          · rename_i a rest ha hrest
            cases h
            rw [Value.as?_eq_some_iff.mp ha, ih hrest]
            rfl
          · cases h

theorem forall₂_of_valuesOf {value : Nat → Option (Except ScoreError Value)} {inputs : List Nat}
    {values : List Value} (h : valuesOf value inputs = some (.ok values)) :
    List.Forall₂ (fun i v => value i = some (.ok v)) inputs values := by
  induction inputs generalizing values with
  | nil =>
      cases h
      exact .nil
  | cons i rest ih =>
      simp only [valuesOf] at h
      split at h
      · cases h
      · cases h
      · rename_i v hv
        obtain ⟨r, hr, hmap⟩ := Option.map_eq_some_iff.mp h
        cases r with
        | error e => cases hmap
        | ok vs =>
            cases hmap
            exact .cons hv (ih hr)

/-! ## What all values of a graph have -/

/-- A property of a value, if it is a number. -/
def Value.Holds (P : Float32 → Prop) (v : Value) : Prop := ∀ x, v = ⟨.float, x⟩ → P x

/-- No field is a number. -/
theorem Place.read_holds {P : Float32 → Prop} {p : Place} {f : Field} {kind : FieldKind} {v : Value}
    (h : p.read f kind = .ok v) : v.Holds P := by
  rintro x rfl
  have htype := Place.read_type h
  cases kind <;> cases htype

namespace Graph

variable {g : Graph} {p : Place} {P : Float32 → Prop}

/-- A derived variable is evaluated: its inputs have these values, which are these arguments. -/
structure AppliesAt (g : Graph) (p : Place) (f : Operation) (inputs : List Nat)
    (as : Arguments f.inputs) : Prop where
  declared : ∃ v ∈ g.variables, v.source = .derived inputs f
  values : List.Forall₂ (fun i v => g.evaluate? p i = some (.ok v)) inputs
    (Arguments.values f.inputs as)

/-- What the functions of a graph keep, all its values have. -/
theorem Wired.evaluate?_holds (hg : g.Wired)
    (happly : ∀ f inputs as, g.AppliesAt p f inputs as →
      (∀ v ∈ Arguments.values f.inputs as, v.Holds P) → Value.Holds P ⟨f.output, f.apply as⟩)
    {i : Nat} {v : Value} (h : g.evaluate? p i = some (.ok v)) : v.Holds P := by
  induction i using Nat.strongRecOn generalizing v with
  | _ i ih =>
      cases hw : g.variables[i]? with
      | none =>
          rw [evaluate?_eq_none hw] at h
          cases h
      | some w =>
          rw [hg.evaluate?_eq hw, Variable.evaluate] at h
          split at h
          · obtain ⟨f, _, hread⟩ := Option.map_eq_some_iff.mp h
            exact Place.read_holds hread
          · rename_i inputs f hsource
            split at h
            · cases h
            · cases h
            · rename_i values hvalues
              obtain ⟨_, happlied, heq⟩ := Option.map_eq_some_iff.mp h
              cases heq
              obtain ⟨as, has, heq⟩ := Option.map_eq_some_iff.mp happlied
              cases heq
              have hinputs := forall₂_of_valuesOf hvalues
              rw [Arguments.eq_values has] at hinputs
              refine happly f inputs as ⟨⟨w, List.mem_of_getElem? hw, hsource⟩, hinputs⟩ ?_
              intro u hu
              obtain ⟨j, hj, hvalue⟩ := exists_of_forall₂ hinputs.flip hu
              exact ih j (hg.input_lt hw hsource j hj) hvalue

def UsesBuiltin (g : Graph) : Prop :=
  ∀ v ∈ g.variables, ∀ inputs f, v.source = .derived inputs f →
    ∃ name, Registry.builtin.get? name = some f

theorem usesBuiltin_of_ofSettings {s : ScoringSettings}
    (h : ofSettings s Registry.builtin = .ok g) : g.UsesBuiltin := by
  obtain ⟨_, vs, hvariables, hderived⟩ := ScoringSettings.wellFormed_of_ofSettings h
  intro v hv inputs f hsource
  rw [hvariables] at hv
  rcases List.mem_append.mp hv with hleaf | hv
  · obtain ⟨b, _, rfl⟩ := List.mem_map.mp hleaf
    cases hsource
  · obtain ⟨b, _, f', positions, hf, _, rfl⟩ := exists_of_forall₂ hderived hv
    cases hsource
    exact ⟨b.function, hf⟩

end Graph

theorem Registry.builtin_cases {name : String} {f : Operation}
    (h : Registry.builtin.get? name = some f) :
    f = length ∨ f = sum ∨ f = product ∨ f = count ∨ f = constantScore := by
  simp only [builtin, get?_register] at h
  split_ifs at h
  all_goals cases h
  all_goals simp

/-- What natural numbers, one hundred, sums and products have, all values of the built-in functions
have. -/
theorem Graph.UsesBuiltin.apply_holds {g : Graph} (hg : g.UsesBuiltin) {p : Place}
    {P : Float32 → Prop} (hnatural : ∀ n : Nat, P n.toFloat32) (hhundred : P 100.0)
    (hsum : ∀ x y, P x → P y → P (x + y))
    (hproduct : ∀ inputs x y, g.AppliesAt p Registry.product inputs (x, y, ()) → P x → P y →
      P (x * y))
    (f : Operation) (inputs : List Nat) (as : Arguments f.inputs)
    (happlies : g.AppliesAt p f inputs as) (has : ∀ v ∈ Arguments.values f.inputs as, v.Holds P) :
    Value.Holds P ⟨f.output, f.apply as⟩ := by
  obtain ⟨v, hv, hsource⟩ := happlies.declared
  obtain ⟨name, hname⟩ := hg v hv inputs f hsource
  rcases Registry.builtin_cases hname with rfl | rfl | rfl | rfl | rfl
  · obtain ⟨s, _⟩ := as
    rintro _ ⟨⟩
    exact hnatural s.length
  · obtain ⟨x, y, _⟩ := as
    rintro _ ⟨⟩
    exact hsum x y (has ⟨.float, x⟩ List.mem_cons_self x rfl)
      (has ⟨.float, y⟩ (List.mem_cons_of_mem _ List.mem_cons_self) y rfl)
  · obtain ⟨x, y, _⟩ := as
    rintro _ ⟨⟩
    exact hproduct inputs x y happlies (has ⟨.float, x⟩ List.mem_cons_self x rfl)
      (has ⟨.float, y⟩ (List.mem_cons_of_mem _ List.mem_cons_self) y rfl)
  · obtain ⟨values, _⟩ := as
    rintro _ ⟨⟩
    exact hnatural values.length
  · rintro _ ⟨⟩
    exact hhundred

/-! ## Signs and numbers -/

namespace Graph

variable {g : Graph} {p : Place} {i : Nat} {v : Value} {x : Float32}

/-- A product of the graph is of infinity and zero. -/
def MultipliesOut (g : Graph) (p : Place) : Prop :=
  ∃ inputs x y, g.AppliesAt p Registry.product inputs (x, y, ()) ∧ InfinityByZero x y

theorem UsesBuiltin.evaluate?_unsigned (h : g.UsesBuiltin) (hg : g.Wired)
    (hv : g.evaluate? p i = some (.ok v)) : v.Holds Unsigned := by
  refine hg.evaluate?_holds (h.apply_holds ?_ ?_ ?_ ?_) hv
  · exact fun n => unsigned_of_sign (scoreSign?_toFloat32 n)
  · exact unsigned_of_sign scoreSign?_hundred
  · exact fun x y hx hy => hx.add hy
  · exact fun _ x y _ hx hy => hx.mul hy

theorem UsesBuiltin.evaluate?_isNumber (h : g.UsesBuiltin) (hg : g.Wired)
    (hout : ¬g.MultipliesOut p) (hv : g.evaluate? p i = some (.ok v)) : v.Holds IsNumber := by
  have hpositive : v.Holds fun x => scoreSign? x = some .positive := by
    refine hg.evaluate?_holds (h.apply_holds scoreSign?_toFloat32 scoreSign?_hundred ?_ ?_) hv
    · exact fun x y hx hy => scoreSign?_add hx hy
    · exact fun inputs x y happlies hx hy =>
        scoreSign?_mul hx hy fun hzero => hout ⟨inputs, x, y, happlies, hzero⟩
  exact fun x hx => isNumber_of_sign (hpositive x hx)

/-- Built-in functions give a score without a minus sign. It is a number unless a product on the way
is of infinity and zero. -/
theorem UsesBuiltin.scoreAt? (h : g.UsesBuiltin) (hg : g.Wired) {name : String}
    (hx : g.scoreAt? p name = some (.ok x)) :
    Unsigned x ∧ (¬g.MultipliesOut p → IsNumber x) := by
  unfold Graph.scoreAt? valueAt? at hx
  cases hi : g.position? name with
  | none =>
      rw [hi] at hx
      cases hx
  | some i =>
      simp only [hi, Option.bind_some] at hx
      split at hx
      · rename_i v hv
        obtain ⟨y, hy, heq⟩ := Option.map_eq_some_iff.mp hx
        cases heq
        have hvalue := Value.as?_eq_some_iff.mp hy
        exact ⟨h.evaluate?_unsigned hg hv x hvalue,
          fun hout => h.evaluate?_isNumber hg hout hv x hvalue⟩
      · cases hx
      · cases hx

end Graph

end Catalogue
