import Catalogue.Decimal.Layout
import Catalogue.Score.Value

/-!
# Why a score cannot be computed
-/

namespace Catalogue

/-- Why a scoring variable has no value for the current document. -/
inductive ScoreError where
  | noContext
  | missingField (field : String) (doc : Nat)
  | unknownField (name : String)
  | store (reason : String)
  | valueType (name : String) (expected found : ValueType)
  deriving DecidableEq

/-- The message for a variable without a value. -/
def ScoreError.message : ScoreError → String
  | noContext => "no current document: field values are only available while scoring"
  | missingField field doc => s!"document {Decimal.natural doc} has no value for field '{field}'"
  | unknownField name => s!"unknown field '{name}'"
  | store reason => s!"failed to read stored document: {reason}"
  | valueType name expected found =>
    s!"binding '{name}' produced {found.name}, expected {expected.name}"

end Catalogue
