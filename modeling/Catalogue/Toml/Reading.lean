import Catalogue.Toml.Basic

/-!
# Reading typed data from TOML

A record is written as a table, in which names that the record does not have are passed over, or as
a list of its fields in order.
-/

namespace Catalogue.Toml

/-- A truth value. -/
def bool? : Toml → Option Bool
  | bool b => some b
  | _ => none

/-- A text. -/
def string? : Toml → Option String
  | string s => some s
  | _ => none

/-- A count of 64 bits. -/
def count? : Toml → Option Nat
  | integer (.ofNat n) => if n < UInt64.size then some n else none
  | _ => none

/-- A list. -/
def list? {α : Type} (item? : Toml → Option α) : Toml → Option (List α)
  | array items => items.mapM item?
  | _ => none

/-- The fields of a record, given their names. A date stands for a record without any. -/
def fields? (names : List String) : Toml → Option (List (Option Toml))
  | table members => some (names.map fun name => members.lookup name)
  | array items => some ((items.take names.length).map some ++
      List.replicate (names.length - items.length) none)
  | moment _ => some (names.map fun _ => none)
  | _ => none

/-- A field that may be left out. -/
def optional? {α : Type} (read : Toml → Option α) : Option Toml → Option (Option α)
  | none => some none
  | some v => (read v).map some

/-- A name from a choice of names. It may also stand as the only name of a table, with nothing
under it. -/
def tag? : Toml → Option String
  | string s => some s
  | table [(name, table [])] => some name
  | table [(name, array [])] => some name
  | _ => none

end Catalogue.Toml
