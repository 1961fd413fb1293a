import Catalogue.Toml.Basic

/-!
# Tables as a document declares them

A document declares a table by a header, by headers of tables inside it, or by dotted names, and
each way allows other additions later. A section is a table with the way it came about.
-/

namespace Catalogue.Toml

/-- How a table came about: a header declares it, the header of a table inside it implies it, or a
dotted name does. -/
inductive Origin where
  | declared
  | implied
  | dotted
  deriving DecidableEq, Repr

/-- What a name stands for while a document is read: a finished value, a table that can grow, or a
list of tables of which the last can grow, after its elder ones. -/
inductive Section where
  | value (v : Toml)
  | table (origin : Origin) (members : List (String × Section))
  | tables (elder : List Toml) (members : List (String × Section))

namespace Section

mutual
/-- The value of a section. -/
def toToml : Section → Toml
  | .value v => v
  | .table _ members => .table (membersToToml members)
  | .tables elder members => .array (elder ++ [.table (membersToToml members)])

/-- The values of sections by name. -/
def membersToToml : List (String × Section) → List (String × Toml)
  | [] => []
  | (name, s) :: rest => (name, s.toToml) :: membersToToml rest
end

/-- The members of a table that can grow. -/
abbrev Members := List (String × Section)

/-- Puts a section in the place of a name, or at the end if the name is new. -/
def put (name : String) (s : Section) : Members → Members
  | [] => [(name, s)]
  | (n, t) :: rest => if n = name then (n, s) :: rest else (n, t) :: put name s rest

/-- Changes the members of a table, given how it came about. -/
abbrev Change := Origin → Members → Option Members

/-- Changes the table that names lead to. Tables on the way that are not there yet come about as
`origin` says. A dotted name does not pass through a table that a header declared, and nothing
passes through a finished value. -/
def within (origin : Origin) (change : Change) : List String → Change
  | [], found, members => change found members
  | name :: path, _, members =>
    match members.lookup name with
    | none =>
      (within origin change path origin []).map fun ms => put name (.table origin ms) members
    | some (.table found ms) =>
      if origin = .dotted && found = .declared then none
      else (within origin change path found ms).map fun ms => put name (.table found ms) members
    | some (.tables elder ms) =>
      (within origin change path .declared ms).map fun ms => put name (.tables elder ms) members
    | some (.value _) => none

/-- Adds a value under a name that must be new. A name that is dotted adds to dotted tables only,
and one that is not, to others only. -/
def add (isDotted : Bool) (name : String) (v : Toml) : Change := fun found members =>
  if decide (found = .dotted) = isDotted && (members.lookup name).isNone then
    some (members ++ [(name, .value v)])
  else none

/-- Adds a value under the name that dotted names end in. -/
def addAt (path : List String) (name : String) (v : Toml) : Change :=
  within .dotted (add (!path.isEmpty) name v) path

/-- Declares the table of a name by a header. It must be new, or only implied. -/
def declare (name : String) : Change := fun _ members =>
  match members.lookup name with
  | none => some (members ++ [(name, .table .declared [])])
  | some (.table .implied ms) => some (put name (.table .declared ms) members)
  | some _ => none

/-- Declares one more table of a list by a header. -/
def declareNext (name : String) : Change := fun _ members =>
  match members.lookup name with
  | none => some (members ++ [(name, .tables [] [])])
  | some (.tables elder ms) =>
    some (put name (.tables (elder ++ [.table (membersToToml ms)]) []) members)
  | some _ => none

end Section

end Catalogue.Toml
