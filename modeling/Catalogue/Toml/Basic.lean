/-!
# TOML values

A document is a table, and so is a section of one. Dates and times keep the text they were written
in, because settings have no use for them.
-/

namespace Catalogue

/-- A TOML value. -/
inductive Toml where
  | string (s : String)
  | integer (n : Int)
  | float (x : Float)
  | bool (b : Bool)
  | moment (text : String)
  | array (items : List Toml)
  | table (members : List (String × Toml))

instance : Inhabited Toml := ⟨.table []⟩

/-- The member of a table with the given name. -/
def Toml.get? (name : String) : Toml → Option Toml
  | table members => members.lookup name
  | _ => none

end Catalogue
