import Catalogue.Score.Registry
import Catalogue.Settings.Scoring

/-!
# Scoring graphs

A graph declares variables one after the other: a leaf reads a field, a derived variable applies a
function to variables declared before it. Names are unique, and every input is of the type that
its function takes.
-/

namespace Catalogue

/-- Why variables do not form a graph, or a name is no entry point of one. -/
inductive GraphError where
  | duplicateName (name : String)
  | unresolvedInput (name input : String)
  | forwardReference (name input : String)
  | arityMismatch (name : String) (expected found : Nat)
  | typeMismatch (name input : String) (expected found : ValueType)
  | unknownFunction (name function : String)
  | unknownEntry (name : String)
  | entryNotFloat (name : String) (found : ValueType)
  | unknownField (name field : String)
  deriving DecidableEq

/-- The message for a graph error. -/
def GraphError.message : GraphError → String
  | duplicateName name => s!"scoring variable '{name}' is defined more than once"
  | unresolvedInput name input => s!"scoring variable '{name}' uses '{input}', which is not defined"
  | forwardReference name input =>
    s!"scoring variable '{name}' uses '{input}', which is declared after it"
  | arityMismatch name expected found =>
    s!"scoring variable '{name}' passes {Decimal.natural found} inputs to a function taking " ++
      Decimal.natural expected
  | typeMismatch name input expected found =>
    s!"scoring variable '{name}' expects {expected.name} for '{input}', which is {found.name}"
  | unknownFunction name function =>
    s!"scoring variable '{name}' uses unknown function '{function}'"
  | unknownEntry name => s!"score entry point '{name}' is not a scoring variable"
  | entryNotFloat name found => s!"score entry point '{name}' is {found.name}, expected float"
  | unknownField name field => s!"scoring variable '{name}' reads unknown field '{field}'"

/-- Where a variable's value comes from: a field of the current document, or a function of the
variables at these positions. -/
inductive Source where
  | leaf (field : String) (kind : FieldKind)
  | derived (inputs : List Nat) (function : Operation)

/-- A declared variable. -/
structure Variable where
  name : String
  type : ValueType
  source : Source

/-- A scoring graph: its variables, in an order in which they can be evaluated. -/
structure Graph where
  «variables» : List Variable

namespace Graph

/-- No variables. -/
def empty : Graph := ⟨[]⟩

/-- The position of a variable. -/
def position? (g : Graph) (name : String) : Option Nat :=
  g.variables.findIdx? fun v => v.name = name

/-- The variable of a name. -/
def find? (g : Graph) (name : String) : Option Variable :=
  g.variables.find? fun v => v.name = name

/-- The type of a variable. -/
def type? (g : Graph) (name : String) : Option ValueType := (g.find? name).map Variable.type

/-- Refuses a name that is declared already. -/
def checkUnique (g : Graph) (name : String) : Except GraphError Unit :=
  if (g.position? name).isSome then .error (.duplicateName name) else .ok ()

/-- Declares a variable. -/
def push (g : Graph) (v : Variable) : Graph := ⟨g.variables ++ [v]⟩

/-- Declares a variable that reads a field of the current document. -/
def leaf (g : Graph) (name field : String) (kind : FieldKind) : Except GraphError Graph := do
  g.checkUnique name
  return g.push ⟨name, kind.type, .leaf field kind⟩

/-- The positions of a derived variable's inputs, each of the type that is wanted. -/
def resolveInputs (g : Graph) (name : String) :
    List String → List ValueType → Except GraphError (List Nat)
  | input :: inputs, expected :: types => do
    match g.position? input, g.type? input with
    | some position, some found =>
      if found = expected then
        let positions ← g.resolveInputs name inputs types
        return position :: positions
      else .error (.typeMismatch name input expected found)
    | _, _ => .error (.unresolvedInput name input)
  | _, _ => .ok []

/-- Declares a variable that applies a function to variables declared before it. -/
def derived (g : Graph) (name : String) (inputs : List String) (f : Operation) :
    Except GraphError Graph := do
  g.checkUnique name
  if inputs.length ≠ f.inputs.length then
    .error (.arityMismatch name f.inputs.length inputs.length)
  else
    let positions ← g.resolveInputs name inputs f.inputs
    return g.push ⟨name, f.output, .derived positions f⟩

/-- Checks that a name is a variable of type `float`. -/
def checkEntry (g : Graph) (name : String) : Except GraphError Unit :=
  match g.type? name with
  | none => .error (.unknownEntry name)
  | some .float => .ok ()
  | some found => .error (.entryNotFloat name found)

/-- Checks that a leaf reads a field of the index. -/
def Variable.checkField (v : Variable) : Except GraphError Unit :=
  match v.source with
  | .leaf field _ =>
    if (Field.ofName? field).isSome then .ok () else .error (.unknownField v.name field)
  | .derived .. => .ok ()

/-- Checks that every leaf reads a field of the index. -/
def validateFields (g : Graph) : Except GraphError Unit :=
  g.variables.forM Variable.checkField

/-! ## Graphs of settings -/

/-- Declares leaf bindings in order. -/
def declareLeaves (g : Graph) : List LeafBinding → Except GraphError Graph
  | [] => .ok g
  | b :: rest => do
    let g ← g.leaf b.name b.field b.kind
    g.declareLeaves rest

/-- Tells an input that is declared later from one that is never declared. -/
def GraphError.orForward (declared : List String) : GraphError → GraphError
  | .unresolvedInput name input =>
    if declared.contains input then .forwardReference name input else .unresolvedInput name input
  | e => e

/-- Declares derived bindings in order. -/
def declareDerived (registry : Registry) (declared : List String) (g : Graph) :
    List DerivedBinding → Except GraphError Graph
  | [] => .ok g
  | b :: rest => do
    match registry.get? b.function with
    | none => .error (.unknownFunction b.name b.function)
    | some f =>
      let g ← (g.derived b.name b.inputs f).mapError (GraphError.orForward declared)
      declareDerived registry declared g rest

/-- The graph of settings: leaves first, then derived bindings in order. -/
def ofSettings (s : ScoringSettings) (registry : Registry) : Except GraphError Graph := do
  let g ← empty.declareLeaves s.leaf
  declareDerived registry s.names g s.derived

end Graph

end Catalogue
