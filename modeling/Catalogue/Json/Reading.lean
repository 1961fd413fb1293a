import Catalogue.Decimal.Layout
import Catalogue.Json.Scan
import Catalogue.Text.Quoted

/-!
# Reading typed data from JSON

A reader turns a scan into a value of some type, or reports the first problem in reading order.
Data is read in one of two forms: straight from a text, where nesting is bounded and faults of the
text surface when the reading reaches them, or from a value already in memory.
-/

namespace Catalogue.Json

/-- What stands where something else was expected. -/
inductive Found where
  | null
  | boolean (b : Bool)
  | number (n : Number)
  | text (s : String)
  | sequence
  | map
  | unitVariant

/-- Why a well-formed value is not of the wanted type. -/
inductive Mismatch where
  | wrongType (found : Found) (expected : String)
  | wrongValue (found : Found) (expected : String)
  | wrongLength (length : Nat) (expected : String)
  | unknownVariant (name : String) (known : List String)
  | unknownField (name : String) (known : List String)
  | missingField (name : String)
  | duplicateField (name : String)
  | refused (reason : String)

/-- Why data could not be read. -/
inductive ReadError where
  | fault (f : Fault)
  | mismatch (m : Mismatch)

/-- What stands there, in words. -/
def Found.describe : Found → String
  | null => "null"
  | boolean b => if b then "boolean `true`" else "boolean `false`"
  | number (.natural n) => s!"integer `{Decimal.natural n.toNat}`"
  | number (.negative n) => s!"integer `{Decimal.integer n.toInt}`"
  | number (.double x) => s!"floating point `{Decimal.Layout.json.render (.ofFloat x)}`"
  | number (.single x) => s!"floating point `{Decimal.Layout.json.render (.ofFloat x.toFloat)}`"
  | text s => s!"string {Text.quoted s}"
  | sequence => "sequence"
  | map => "map"
  | unitVariant => "unit variant"

/-- A choice of names, in words. -/
def oneOf : List String → String
  | [a] => s!"`{a}`"
  | [a, b] => s!"`{a}` or `{b}`"
  | names => "one of " ++ ", ".intercalate (names.map fun n => s!"`{n}`")

/-- The message for a mismatch. -/
def Mismatch.message : Mismatch → String
  | wrongType found expected => s!"invalid type: {found.describe}, expected {expected}"
  | wrongValue found expected => s!"invalid value: {found.describe}, expected {expected}"
  | wrongLength length expected => s!"invalid length {Decimal.natural length}, expected {expected}"
  | unknownVariant name known => s!"unknown variant `{name}`, expected {oneOf known}"
  | unknownField name known => s!"unknown field `{name}`, expected {oneOf known}"
  | missingField name => s!"missing field `{name}`"
  | duplicateField name => s!"duplicate field `{name}`"
  | refused reason => reason

/-- The message for data that could not be read. -/
def ReadError.message : ReadError → String
  | fault .truncated => "EOF while parsing a value"
  | fault .malformed => "expected value"
  | mismatch m => m.message

/-- Where data comes from: a text with so many levels of nesting left, or a value in memory. -/
inductive Form where
  | text (depth : Nat)
  | value

/-- A result of reading. -/
abbrev Read (α : Type) := Except ReadError α

/-- Reads a scan in some form. -/
abbrev Reader (α : Type) := Form → Scan → Read α

/-- Fails with a fault of the text. -/
def failFault {α : Type} (f : Fault) : Read α := .error (.fault f)

/-- Fails because the data is not of the wanted type. -/
def fail {α : Type} (m : Mismatch) : Read α := .error (.mismatch m)

/-- The form inside one more bracket. The last level of a text is never entered. -/
def Form.enter : Form → Read Form
  | text (depth + 2) => .ok (text (depth + 1))
  | text _ => failFault .malformed
  | value => .ok value

/-- Reports that something else was expected, unless the text breaks before it is known what
stands there. -/
def Scan.unexpected {α : Type} (expected : String) : Scan → Read α
  | null => fail (.wrongType .null expected)
  | bool b => fail (.wrongType (.boolean b) expected)
  | number (some n) => fail (.wrongType (.number n) expected)
  | string (some s) => fail (.wrongType (.text s) expected)
  | array .. => fail (.wrongType .sequence expected)
  | object .. | misnamed .. => fail (.wrongType .map expected)
  | number none | string none => failFault .malformed
  | broken b => failFault b.wanted

/-! ## Passing over a value -/

mutual
/-- Passes over a value: only faults of the text's grammar count. -/
def Scan.skip : Scan → Read Unit
  | .broken b => failFault b.skipped
  | .array items close => do
    skipItems items
    match close with
    | .closed => return ()
    | .broken _ skipped _ => failFault skipped
  | .object members close => do
    skipMembers members
    match close with
    | .closed => return ()
    | .broken _ skipped _ => failFault skipped
  | .misnamed members _ => do
    skipMembers members
    failFault .malformed
  | _ => return ()

/-- Passes over the items of an array. -/
def skipItems : List Scan → Read Unit
  | [] => return ()
  | item :: rest => do
    item.skip
    skipItems rest

/-- Passes over the members of an object. -/
def skipMembers : List (Option String × Scan) → Read Unit
  | [] => return ()
  | (_, value) :: rest => do
    value.skip
    skipMembers rest
end

/-! ## Scalars -/

/-- Reads a text. -/
def readString : Reader String := fun _ scan =>
  match scan with
  | .string (some s) => .ok s
  | scan => scan.unexpected "a string"

/-- Reads a truth value. -/
def readBool : Reader Bool := fun _ scan =>
  match scan with
  | .bool b => .ok b
  | scan => scan.unexpected "a boolean"

/-- Reads a 64-bit number. -/
def readDouble : Reader Float := fun _ scan =>
  match scan with
  | .number (some n) => .ok n.toDouble
  | scan => scan.unexpected "f64"

/-- Reads a 32-bit number. -/
def readSingle : Reader Float32 := fun _ scan =>
  match scan with
  | .number (some n) => .ok n.toSingle
  | scan => scan.unexpected "f32"

/-- Reads a count of 64 bits. -/
def readCount : Reader UInt64 := fun _ scan =>
  match scan with
  | .number (some (.natural n)) => .ok n
  | .number (some (.negative n)) => fail (.wrongValue (.number (.negative n)) "usize")
  | scan => scan.unexpected "usize"

/-- Reads the value that stands for no data. -/
def readUnit : Reader Unit := fun _ scan =>
  match scan with
  | .null => .ok ()
  | scan => scan.unexpected "unit"

/-! ## Lists -/

/-- Ends an array or an object where nothing more is asked for. -/
def Close.stop : Close → Read Unit
  | .closed => .ok ()
  | .broken _ _ stop => failFault stop

/-- Ends an array or an object where more would be taken. -/
def Close.next : Close → Read Unit
  | .closed => .ok ()
  | .broken next _ _ => failFault next

/-- Reads a list of any length. -/
def readList {α : Type} (read : Reader α) : Reader (List α) := fun form scan =>
  match scan with
  | .array items close => do
    let form ← form.enter
    let values ← items.mapM (read form)
    close.next
    return values
  | scan => scan.unexpected "a sequence"

/-! ## Records -/

/-- The readers of a record's fields. `partial_` holds the fields read so far; `field` reads one by
name into it and refuses one that is there already. `required` fields come first and have no
default; a `strict` record has no other members. -/
structure Shape (σ : Type) where
  expected : String
  fields : List String
  required : Nat
  strict : Bool
  empty : σ
  field : String → σ → Reader σ

/-- What is said of a record written as an array that is too short. -/
def Shape.expectedLength {σ : Type} (shape : Shape σ) : String :=
  let noun := if shape.fields.length = 1 then "element" else "elements"
  s!"{shape.expected} with {Decimal.natural shape.fields.length} {noun}"

/-- Reads the members of an object in order. -/
def Shape.readMembers {σ : Type} (shape : Shape σ) (form : Form) :
    σ → List (Option String × Scan) → Read σ
  | found, [] => .ok found
  | found, (name, value) :: rest =>
    match name with
    | none => failFault .malformed
    | some name =>
      if shape.fields.contains name then do
        let found ← shape.field name found form value
        shape.readMembers form found rest
      else if shape.strict then fail (.unknownField name shape.fields)
      else do
        value.skip
        shape.readMembers form found rest

/-- Reads fields in order from the items of an array. Returns what is left of the items. -/
def Shape.readItems {σ : Type} (shape : Shape σ) (form : Form) (close : Close) :
    Nat → σ → List String → List Scan → Read (σ × List Scan)
  | _, found, [], items => .ok (found, items)
  | index, found, _ :: _, [] => do
    close.next
    if index < shape.required then fail (.wrongLength index shape.expectedLength)
    else return (found, [])
  | index, found, name :: names, item :: items => do
    let found ← shape.field name found form item
    shape.readItems form close (index + 1) found names items

/-- Reads a record from an object, or from an array of its fields in order. -/
def Shape.read {σ : Type} (shape : Shape σ) : Reader σ := fun form scan =>
  match scan with
  | .array items close => do
    let inner ← form.enter
    let (found, left) ← shape.readItems inner close 0 shape.empty shape.fields items
    match form with
    | .text _ => if left.isEmpty then close.stop else failFault .malformed
    | .value =>
      if left.isEmpty then pure () else fail (.wrongLength items.length "fewer elements in array")
    return found
  | .object members close => do
    let inner ← form.enter
    let found ← shape.readMembers inner shape.empty members
    close.next
    return found
  | .misnamed members _ => do
    let inner ← form.enter
    let _ ← shape.readMembers inner shape.empty members
    failFault .malformed
  | scan => scan.unexpected shape.expected

/-- Fills the place of a field, once. -/
def fill {α : Type} (name : String) (place : Option α) (read : Read α) : Read (Option α) :=
  match place with
  | some _ => fail (.duplicateField name)
  | none => some <$> read

/-- The value of a field that has no default. -/
def require {α : Type} (name : String) : Option α → Read α
  | some a => .ok a
  | none => fail (.missingField name)

/-! ## Tagged values -/

/-- What a tag carries: nothing, or a scan in its form. -/
inductive Content where
  | bare
  | given (form : Form) (scan : Scan)

/-- Checks a tag against the known ones. -/
def knownTag (variants : List String) (name : String) : Read String :=
  if variants.contains name then .ok name else fail (.unknownVariant name variants)

/-- Reads a value that is a bare tag, or an object whose only member is named by the tag. -/
def readTagged {α : Type} (variants : List String) (read : String → Content → Read α) :
    Reader α := fun form scan =>
  match form, scan with
  | .text _, .string none => failFault .malformed
  | _, .string (some name) => do
    let name ← knownTag variants name
    read name .bare
  | .text _, .object [] .closed => failFault .malformed
  | .text depth, .object [] (.broken next _ _) => do
    let _ ← (Form.text depth).enter
    failFault next
  | .text depth, .object ((name, value) :: rest) close => do
    let inner ← (Form.text depth).enter
    match name with
    | none => failFault .malformed
    | some name =>
      let name ← knownTag variants name
      let result ← read name (.given inner value)
      if rest.isEmpty then close.stop else failFault .malformed
      return result
  | .text depth, .misnamed [] key => do
    let _ ← (Form.text depth).enter
    key.unexpected "variant identifier"
  | .text depth, .misnamed ((name, value) :: _) _ => do
    let inner ← (Form.text depth).enter
    match name with
    | none => failFault .malformed
    | some name =>
      let name ← knownTag variants name
      let _ ← read name (.given inner value)
      failFault .malformed
  | .text _, .broken b => failFault b.tag
  | .text _, _ => failFault .malformed
  | .value, .object [(some name, value)] _ => do
    let name ← knownTag variants name
    read name (.given .value value)
  | .value, .object .. => fail (.wrongValue .map "map with a single key")
  | .value, scan => scan.unexpected "string or map"

/-- The content of a tag that carries nothing. -/
def Content.unit : Content → Read Unit
  | bare => .ok ()
  | given form scan => readUnit form scan

/-- The content of a tag that carries one value. -/
def Content.single {α : Type} (read : Reader α) : Content → Read α
  | bare => fail (.wrongType .unitVariant "newtype variant")
  | given form scan => read form scan

/-- The content of a tag that carries a record. In memory it is an object, never an array. -/
def Content.record {σ : Type} (shape : Shape σ) : Content → Read σ
  | bare => fail (.wrongType .unitVariant "struct variant")
  | given .value scan =>
    match scan with
    | .object .. => shape.read .value scan
    | scan => scan.unexpected "struct variant"
  | given form scan => shape.read form scan

/-! ## Whole texts and values -/

/-- How many brackets deep a text may nest, plus one. -/
def depthLimit : Nat := 128

/-- Reads a whole text. -/
def readText {α : Type} (read : Reader α) (s : String) : Read α := do
  let document := Scan.ofText s
  let a ← read (.text depthLimit) document.value
  if document.trailing then failFault .malformed
  return a

/-- Reads a value in memory. -/
def readValue {α : Type} (read : Reader α) (j : Json) : Read α := read .value (.ofJson j)

end Catalogue.Json
