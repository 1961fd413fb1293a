import Catalogue.Proofs.Score.Providers

/-! # Calls of bound operations

A call asks for the arguments in order, each from the state that the one before it left, and ends
with the first that fails or is of another type than the operation takes. What the inputs do to the
state is arbitrary, so that the state in the end tells which of them were asked; inputs that note
their numbers tell it in so many words. The induction is on the types that are taken. -/

namespace Catalogue

variable {σ : Type}

/-- What an evaluation gives from a state on, and the state that it leaves. -/
def Evaluation.runFrom {α : Type} (e : Evaluation σ α) (s : σ) : Except ScoreError α × σ :=
  (ExceptT.run e).run s

/-- Asks providers in order, each once, whatever they answer. -/
def askEach : List (Provider σ) → σ → List (Except ScoreError Value) × σ
  | [], s => ([], s)
  | p :: ps, s =>
      ((p.runFrom s).1 :: (askEach ps (p.runFrom s).2).1, (askEach ps (p.runFrom s).2).2)

/-- What keeps an answer from being an argument: it is a failure, or a value of another type. -/
def problem? (name : String) (t : ValueType) : Except ScoreError Value → Option ScoreError
  | .error e => some e
  | .ok v => if v.type = t then none else some (.valueType name t v.type)

/-- How asking inputs for arguments goes, how many of them are asked, and what it leaves. The first
problem ends it, with the input that has it the last to be asked. Without one all inputs are asked,
and their values are the arguments, in order. -/
inductive Asked (name : String) (types : List ValueType) (inputs : List (Provider σ)) (s : σ) :
    Nat → Except ScoreError (Arguments types) → σ → Prop where
  | stopped {k t answers a e u} : askEach (inputs.take (k + 1)) s = (answers ++ [a], u) →
      List.Forall₂ (fun t a => problem? name t a = none) (types.take k) answers →
      types[k]? = some t → problem? name t a = some e →
      Asked name types inputs s (k + 1) (.error e) u
  | complete {values arguments u} : askEach inputs s = (values.map .ok, u) →
      Arguments.ofValues? types values = some arguments →
      Asked name types inputs s inputs.length (.ok arguments) u

/-- A provider that notes a number each time it is asked, after those noted before. -/
def Provider.numbered (number : Nat) (p : Provider σ) : Provider (List Nat × σ) :=
  ExceptT.mk fun s => ((p.runFrom s.2).1, s.1 ++ [number], (p.runFrom s.2).2)

def numberEach : Nat → List (Provider σ) → List (Provider (List Nat × σ))
  | _, [] => []
  | number, p :: ps => p.numbered number :: numberEach (number + 1) ps

/-! ## One argument -/

theorem Evaluation.runFrom_bind {α β : Type} (e : Evaluation σ α) (k : α → Evaluation σ β) (s : σ) :
    Evaluation.runFrom (e >>= k) s =
      match e.runFrom s with
      | (.ok a, t) => (k a).runFrom t
      | (.error x, t) => (.error x, t) := by
  unfold runFrom
  rw [run_bind]
  rcases (ExceptT.run e).run s with ⟨_ | _, _⟩ <;> rfl

theorem argument_of_problem {name : String} {t : ValueType} {v : Value} {e : ScoreError}
    (h : problem? name t (.ok v) = some e) : argument name t v = .error e := by
  rw [problem?] at h
  split at h
  · cases h
  · cases h
    rw [argument, Value.as?_eq_none_iff.mpr (by assumption)]

theorem exists_value_of_no_problem {name : String} {t : ValueType} {a : Except ScoreError Value}
    (h : problem? name t a = none) : ∃ x, a = .ok ⟨t, x⟩ := by
  cases a with
  | error e => cases h
  | ok v =>
      obtain ⟨u, y⟩ := v
      simp only [problem?] at h
      split at h
      · subst_vars
        exact ⟨y, rfl⟩
      · cases h

section

variable {name : String} {t : ValueType} {p : Provider σ} {s s' : σ} {types : List ValueType}
  {rest : Evaluation σ (Arguments types)}

/-- A problem with the first argument ends the call, and the rest is not asked. -/
theorem Arguments.runFrom_cons_of_problem {a : Except ScoreError Value} {e : ScoreError}
    (hp : p.runFrom s = (a, s')) (h : problem? name t a = some e) :
    (Arguments.cons name t p rest).runFrom s = (.error e, s') := by
  refine (Evaluation.runFrom_bind p _ s).trans ?_
  rw [hp]
  cases a with
  | error x =>
      cases h
      rfl
  | ok v =>
      refine (Evaluation.runFrom_bind _ _ s').trans ?_
      rw [argument_of_problem h]
      rfl

theorem Arguments.runFrom_cons_of_value {x : t.Carrier} {r : Except ScoreError (Arguments types)}
    {u : σ} (hp : p.runFrom s = (.ok ⟨t, x⟩, s')) (hrest : rest.runFrom s' = (r, u)) :
    (Arguments.cons name t p rest).runFrom s = (r.map fun as => (x, as), u) := by
  refine (Evaluation.runFrom_bind p _ s).trans ?_
  rw [hp]
  refine (Evaluation.runFrom_bind _ _ s').trans ?_
  rw [argument_eq_ok_iff.mpr (Value.as?_self t x)]
  refine (Evaluation.runFrom_bind rest _ s').trans ?_
  rw [hrest]
  cases r <;> rfl

theorem Provider.runFrom_numbered (number : Nat) (asked : List Nat) {a : Except ScoreError Value}
    (hp : p.runFrom s = (a, s')) :
    (p.numbered number).runFrom (asked, s) = (a, asked ++ [number], s') := by
  change ((p.runFrom s).1, asked ++ [number], (p.runFrom s).2) = _
  rw [hp]

end

/-! ## All arguments -/

section

variable {name : String} {types : List ValueType} {inputs : List (Provider σ)}

/-- One more argument in front of those that are asked for. -/
theorem Asked.cons {t : ValueType} {p : Provider σ} {x : t.Carrier} {s s' u : σ} {k : Nat}
    {r : Except ScoreError (Arguments types)} (hp : p.runFrom s = (.ok ⟨t, x⟩, s'))
    (h : Asked name types inputs s' k r u) :
    Asked name (t :: types) (p :: inputs) s (k + 1) (r.map fun as => (x, as)) u := by
  cases h with
  | @stopped k _ answers a e _ hask hfine ht hproblem =>
      have hfirst : problem? name t (.ok ⟨t, x⟩) = none := if_pos rfl
      have hask' : askEach ((p :: inputs).take (k + 1 + 1)) s =
          (.ok ⟨t, x⟩ :: answers ++ [a], u) := by
        simp only [List.take_succ_cons, askEach, hp, hask, List.cons_append]
      exact .stopped hask' (.cons hfirst hfine) ht hproblem
  | @complete values arguments _ hask hvalues =>
      have hask' : askEach (p :: inputs) s = ((⟨t, x⟩ :: values).map .ok, u) := by
        simp only [askEach, hp, hask, List.map_cons]
      exact .complete hask' (Arguments.ofValues?_cons (Value.as?_self t x) hvalues)

/-- Arguments are asked for in order, up to the first problem, and inputs that note their numbers
are asked for the same. -/
theorem Arguments.evaluate?_asked {e : Evaluation σ (Arguments types)}
    (h : Arguments.evaluate? name types inputs = some e) (number : Nat) :
    ∃ e', Arguments.evaluate? name types (numberEach number inputs) = some e' ∧
      ∀ s, ∃ k r u, Asked name types inputs s k r u ∧ e.runFrom s = (r, u) ∧
        ∀ before, e'.runFrom (before, s) = (r, before ++ List.range' number k, u) := by
  induction types generalizing inputs number with
  | nil =>
      cases inputs with
      | nil =>
          cases h
          have hask : ∀ s : σ, askEach [] s = (([] : List Value).map .ok, s) := fun s => rfl
          refine ⟨_, rfl, fun s => ⟨0, _, s, .complete (hask s) rfl, rfl, fun before => ?_⟩⟩
          rw [List.range'_zero, List.append_nil]
          rfl
      | cons p ps => cases h
  | cons t types ih =>
      cases inputs with
      | nil => cases h
      | cons p ps =>
          obtain ⟨rest, hrest, rfl⟩ := Option.map_eq_some_iff.mp h
          obtain ⟨rest', hrest', hcalls⟩ := ih hrest (number + 1)
          refine ⟨Arguments.cons name t (p.numbered number) rest', ?_, fun s => ?_⟩
          · simp only [numberEach, Arguments.evaluate?, hrest', Option.map_some]
          rcases hp : p.runFrom s with ⟨a, s'⟩
          have hnumbered := fun before => Provider.runFrom_numbered number before hp
          cases hproblem : problem? name t a with
          | some x =>
              have hask : askEach ((p :: ps).take (0 + 1)) s = ([] ++ [a], s') := by
                simp [askEach, hp]
              exact ⟨1, .error x, s', .stopped hask .nil rfl hproblem,
                runFrom_cons_of_problem hp hproblem,
                fun before => runFrom_cons_of_problem (hnumbered before) hproblem⟩
          | none =>
              obtain ⟨x, rfl⟩ := exists_value_of_no_problem hproblem
              obtain ⟨k, r, u, hasked, hrun, hnotes⟩ := hcalls s'
              refine ⟨k + 1, _, u, hasked.cons hp, runFrom_cons_of_value hp hrun, fun before => ?_⟩
              rw [runFrom_cons_of_value (hnumbered before) (hnotes _), List.append_assoc,
                List.range'_succ]
              rfl

end

theorem Operation.runFrom_onArguments (f : Operation) {e : Evaluation σ (Arguments f.inputs)}
    {s u : σ} {r : Except ScoreError (Arguments f.inputs)} (h : e.runFrom s = (r, u)) :
    (f.onArguments e).runFrom s = (r.map fun as => ⟨f.output, f.apply as⟩, u) := by
  refine (Evaluation.runFrom_bind e _ s).trans ?_
  rw [h]
  cases r <;> rfl

/-- Providers bind if there is one for each argument. Each call asks the inputs in order, up to the
first that has a problem and no later one, or all of them once, and applies the operation to their
values. -/
theorem bind?_asks_in_order (f : Operation) (name : String) (inputs : List (Provider σ)) :
    ((f.bind? name inputs).isSome = true ↔ inputs.length = f.inputs.length) ∧
      ∀ bound, f.bind? name inputs = some bound →
        ∃ numbered, f.bind? name (numberEach 0 inputs) = some numbered ∧
          ∀ s, ∃ k r u, Asked name f.inputs inputs s k r u ∧
            bound.runFrom s = (r.map fun as => ⟨f.output, f.apply as⟩, u) ∧
            ∀ before, numbered.runFrom (before, s) =
              (r.map fun as => ⟨f.output, f.apply as⟩, before ++ List.range k, u) := by
  refine ⟨f.bind?_isSome name inputs, fun bound hbound => ?_⟩
  obtain ⟨e, he, rfl⟩ := Option.map_eq_some_iff.mp hbound
  obtain ⟨e', he', hcalls⟩ := Arguments.evaluate?_asked he 0
  refine ⟨f.onArguments e', Option.map_eq_some_iff.mpr ⟨e', he', rfl⟩, fun s => ?_⟩
  obtain ⟨k, r, u, hasked, hrun, hnotes⟩ := hcalls s
  refine ⟨k, r, u, hasked, f.runFrom_onArguments hrun, fun before => ?_⟩
  rw [List.range_eq_range']
  exact f.runFrom_onArguments (hnotes before)

def Operation.labelledSum : Operation :=
  ⟨[.string, .float, .float], .float, fun (_, x, y, _) => x + y⟩

def Provider.constant (a : Except ScoreError Value) : Provider σ := ExceptT.mk fun s => (a, s)

def mistypedInputs : List (Provider Unit) :=
  [.constant (.ok ⟨.string, "Dune"⟩), .constant (.ok ⟨.int, (3 : Int64)⟩),
    .constant (.error .noContext)]

/-- The call ends with the number, and does not come to the failure. -/
theorem bind?_asks_two : ∃ bound numbered,
    Operation.labelledSum.bind? "total" mistypedInputs = some bound ∧
      Operation.labelledSum.bind? "total" (numberEach 0 mistypedInputs) = some numbered ∧
      Asked "total" Operation.labelledSum.inputs mistypedInputs () 2
        (.error (.valueType "total" .float .int)) () ∧
      bound.runFrom () = (.error (.valueType "total" .float .int), ()) ∧
      numbered.runFrom ([], ()) = (.error (.valueType "total" .float .int), [0, 1], ()) := by
  obtain ⟨numbered, hnumbered, hcalls⟩ :=
    (bind?_asks_in_order Operation.labelledSum "total" mistypedInputs).2 _ rfl
  obtain ⟨k, r, u, hasked, hrun, hnotes⟩ := hcalls ()
  cases hnumbered
  have hcount : [0, 1] = List.range k := congrArg (fun call => call.2.1) (hnotes [])
  have htwo : 2 = k := by simpa using congrArg List.length hcount
  subst htwo
  cases r with
  | error e =>
      cases hrun
      exact ⟨_, _, rfl, rfl, hasked, rfl, hnotes []⟩
  | ok arguments => cases hrun

end Catalogue
