import Catalogue.Score.Graph

/-!
# Declaring a graph step by step

A builder keeps the variables declared so far and, beside them, the position of each name. All
checks of a declaration are made before it changes anything. Building takes what was declared, and
leaves the builder as a new one.
-/

namespace Catalogue

/-- Variables in the order of their declaration, and the position of each name, the latest first. -/
structure Builder where
  nodes : List Variable
  positions : List (String × Nat)

/-- Work on a builder that may fail. What was changed before a failure stays changed. -/
abbrev Building := ExceptT GraphError (StateM Builder)

namespace Builder

/-- Nothing is declared. -/
def empty : Builder := ⟨[], []⟩

/-- The graph of what is declared. -/
def graph (b : Builder) : Graph := ⟨b.nodes⟩

/-- The position of a name. -/
def position? (b : Builder) (name : String) : Option Nat := b.positions.lookup name

/-- Refuses a name that is declared already. -/
def checkUnique (name : String) : Building Unit := do
  let b ← get
  if (b.position? name).isSome then throw (.duplicateName name)

/-- Appends a variable that was checked. -/
def push (v : Variable) : Building Unit := do
  modify fun b => { b with positions := (v.name, b.nodes.length) :: b.positions }
  modify fun b => { b with nodes := b.nodes ++ [v] }

/-- The positions of a derived variable's inputs, each of the type that is wanted. -/
def resolveInputs (name : String) : List String → List ValueType → Building (List Nat)
  | input :: inputs, expected :: types => do
    let b ← get
    match b.position? input with
    | none => throw (.unresolvedInput name input)
    | some position =>
      match b.nodes[position]? with
      | none => throw (.unresolvedInput name input)
      | some v =>
        if v.type = expected then
          let positions ← resolveInputs name inputs types
          return position :: positions
        else throw (.typeMismatch name input expected v.type)
  | _, _ => return []

/-- Declares a variable that reads a field of the current document. -/
def leaf (name field : String) (kind : FieldKind) : Building Unit := do
  checkUnique name
  push ⟨name, kind.type, .leaf field kind⟩

/-- Declares a variable that applies a function to variables declared before it. -/
def derived (name : String) (inputs : List String) (f : Operation) : Building Unit := do
  checkUnique name
  if inputs.length ≠ f.inputs.length then
    throw (.arityMismatch name f.inputs.length inputs.length)
  let positions ← resolveInputs name inputs f.inputs
  push ⟨name, f.output, .derived positions f⟩

/-- Takes what is declared, the graph with the positions of its names. -/
def build : StateM Builder Builder := do
  let b ← get
  set empty
  return b

end Builder

end Catalogue
