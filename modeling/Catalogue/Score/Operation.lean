import Catalogue.Score.Error

/-!
# Scoring operations

An operation states the types of its arguments and of its result. Binding it to one provider per
argument gives a provider that evaluates the arguments in order, stops at the first problem, and
applies the operation to their values.
-/

namespace Catalogue

/-- Arguments of the given types. -/
def Arguments : List ValueType → Type
  | [] => Unit
  | t :: ts => t.Carrier × Arguments ts

/-- An operation with its signature. -/
structure Operation where
  inputs : List ValueType
  output : ValueType
  apply : Arguments inputs → output.Carrier

/-- A computation that may fail to score and that changes a state even when it fails. -/
abbrev Evaluation (σ α : Type) := ExceptT ScoreError (StateM σ) α

/-- Something that can be asked for a value. -/
abbrev Provider (σ : Type) := Evaluation σ Value

/-- The data of an argument of the node `name`, which must be of the given type. -/
def argument (name : String) (t : ValueType) (v : Value) : Except ScoreError t.Carrier :=
  match v.as? t with
  | some a => .ok a
  | none => .error (.valueType name t v.type)

/-- Asks for an argument, which must be of its type, and then for the rest. -/
def Arguments.cons {σ : Type} {types : List ValueType} (name : String) (t : ValueType)
    (p : Provider σ) (rest : Evaluation σ (Arguments types)) :
    Evaluation σ (Arguments (t :: types)) := do
  let v ← p
  let a ← ExceptT.mk (pure (argument name t v))
  let as ← rest
  return (a, as)

/-- Evaluates one provider per type, in order; each is of its type before the next is asked. There
is no evaluation when their numbers differ. -/
def Arguments.evaluate? {σ : Type} (name : String) :
    (types : List ValueType) → List (Provider σ) → Option (Evaluation σ (Arguments types))
  | [], [] => some (pure ())
  | t :: ts, p :: ps => (Arguments.evaluate? name ts ps).map (Arguments.cons name t p)
  | _, _ => none

/-- Applies an operation once its arguments are evaluated. -/
def Operation.onArguments {σ : Type} (f : Operation) (arguments : Evaluation σ (Arguments f.inputs)) :
    Evaluation σ Value := do
  let as ← arguments
  return ⟨f.output, f.apply as⟩

/-- Binds an operation to a provider per argument for the node `name`. -/
def Operation.bind? {σ : Type} (f : Operation) (name : String) (inputs : List (Provider σ)) :
    Option (Provider σ) :=
  (Arguments.evaluate? name f.inputs inputs).map f.onArguments

/-- Providers bind exactly when there is one per argument. -/
theorem Arguments.evaluate?_isSome {σ : Type} (name : String) (types : List ValueType)
    (ps : List (Provider σ)) :
    (Arguments.evaluate? name types ps).isSome = true ↔ ps.length = types.length := by
  induction types generalizing ps with
  | nil => cases ps <;> simp [Arguments.evaluate?]
  | cons t ts ih => cases ps <;> simp [Arguments.evaluate?, ih]

theorem Operation.bind?_isSome {σ : Type} (f : Operation) (name : String)
    (inputs : List (Provider σ)) :
    (f.bind? name inputs).isSome = true ↔ inputs.length = f.inputs.length := by
  simp [Operation.bind?, Arguments.evaluate?_isSome]

end Catalogue
