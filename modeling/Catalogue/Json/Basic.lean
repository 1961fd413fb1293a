/-!
# JSON values

Numbers keep the form they were written in: a natural number, a negative integer, or a number with
a fraction or an exponent. Members of an object keep their order.
-/

namespace Catalogue

/-- A JSON number. Numbers that fit no integer form are 64-bit floating-point numbers; `single` is
one of 32 bits, which only values made in memory contain. -/
inductive Json.Number where
  | natural (n : UInt64)
  | negative (n : Int64)
  | double (x : Float)
  | single (x : Float32)
  deriving DecidableEq

/-- A JSON value. -/
inductive Json where
  | null
  | bool (b : Bool)
  | number (n : Json.Number)
  | string (s : String)
  | array (items : List Json)
  | object (members : List (String × Json))

instance : Inhabited Json := ⟨.null⟩

namespace Json

open Float.Model

/-- The nearest 32-bit number. -/
def nearestSingle (x : Float) : Float32 :=
  .ofModel <| .pack <| match x.toModel.unpack with
    | .finite sign m e _ => UnpackedFloat.round .binary32 sign m e
    | u => u

/-- The magnitude of an integer. -/
def magnitude (n : Int64) : UInt64 := n.toInt.natAbs.toUInt64

/-- The nearest 64-bit number. -/
def Number.toDouble : Number → Float
  | natural n => n.toFloat
  | negative n => if n < 0 then -(magnitude n).toFloat else (magnitude n).toFloat
  | double x => x
  | single x => x.toFloat

/-- The nearest 32-bit number; an integer is rounded once. -/
def Number.toSingle : Number → Float32
  | natural n => n.toFloat32
  | negative n => if n < 0 then -(magnitude n).toFloat32 else (magnitude n).toFloat32
  | double x => nearestSingle x
  | single x => x

/-- A count as a number. -/
def ofNat (n : Nat) : Json := .number (.natural n.toUInt64)

/-- A 64-bit number; what is not finite is written `null`. -/
def ofDouble (x : Float) : Json := if x.isFinite then .number (.double x) else .null

/-- A 32-bit number; what is not finite is written `null`. -/
def ofSingle (x : Float32) : Json := if x.isFinite then .number (.single x) else .null

/-- Puts a member in place by the order of names; one of the same name is replaced. -/
def insertMember (name : String) (value : Json) : List (String × Json) → List (String × Json)
  | [] => [(name, value)]
  | (n, v) :: rest =>
    if name = n then (name, value) :: rest
    else if name < n then (name, value) :: (n, v) :: rest
    else (n, v) :: insertMember name value rest

/-- Members in the order of their names, each the last of its name. -/
def sortMembers (members : List (String × Json)) : List (String × Json) :=
  members.foldl (fun sorted m => insertMember m.1 m.2 sorted) []

/-- The member of an object with the given name. -/
def get? (name : String) : Json → Option Json
  | object members => members.lookup name
  | _ => none

end Json

end Catalogue
