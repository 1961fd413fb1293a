/-!
# Values of scoring variables
-/

namespace Catalogue

/-- The type of a scoring variable. A document's score is a `float`. -/
inductive ValueType where
  | float
  | double
  | int
  | bool
  | string
  | strings
  | bytes
  | bytesList
  deriving DecidableEq, Repr

namespace ValueType

/-- The name of a type. -/
def name : ValueType → String
  | float => "float"
  | double => "double"
  | int => "int"
  | bool => "bool"
  | string => "string"
  | strings => "strings"
  | bytes => "bytes"
  | bytesList => "bytes list"

/-- The values of a type. -/
abbrev Carrier : ValueType → Type
  | float => Float32
  | double => Float
  | int => Int64
  | bool => Bool
  | string => String
  | strings => List String
  | bytes => List UInt8
  | bytesList => List (List UInt8)

instance (t : ValueType) : DecidableEq t.Carrier := by
  cases t <;> exact inferInstance

end ValueType

/-- A value with its type. -/
structure Value where
  type : ValueType
  data : type.Carrier

namespace Value

instance : DecidableEq Value := fun ⟨t, a⟩ ⟨u, b⟩ =>
  if h : t = u then
    match u, h, b with
    | _, rfl, b => if hb : a = b then isTrue (hb ▸ rfl) else isFalse fun e => hb (by cases e; rfl)
  else isFalse fun e => h (by cases e; rfl)

/-- The data of a value, if it is of the given type. -/
def as? (v : Value) (t : ValueType) : Option t.Carrier :=
  if h : v.type = t then some (h ▸ v.data) else none

@[simp] theorem as?_self (t : ValueType) (a : t.Carrier) : as? ⟨t, a⟩ t = some a := by
  simp [as?]

theorem as?_eq_none_iff {v : Value} {t : ValueType} : v.as? t = none ↔ v.type ≠ t := by
  by_cases h : v.type = t <;> simp [as?, h]

end Value

end Catalogue
