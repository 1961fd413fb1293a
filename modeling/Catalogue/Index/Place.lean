import Catalogue.Index.Document
import Catalogue.Score.Error

/-!
# Reading the current document

A search announces each segment it enters and each document it is about to score. Fields are read
of whatever document is current when they are asked for.
-/

namespace Catalogue

/-- How a field is read: its first text or all of them, as text or as bytes. -/
inductive FieldKind where
  | string
  | strings
  | bytes
  | bytesList
  deriving DecidableEq, Repr

/-- The type of what is read. -/
def FieldKind.type : FieldKind → ValueType
  | string => .string
  | strings => .strings
  | bytes => .bytes
  | bytesList => .bytesList

/-- The bytes of a text. -/
def textBytes (s : String) : List UInt8 := s.toUTF8.toList

/-- Where a search stands. -/
structure Place where
  segment : Option Segment
  doc : Option Nat

namespace Place

/-- Before any announcement. -/
def start : Place := ⟨none, none⟩

/-- A segment is entered. No document of it is current yet. -/
def enter (_ : Place) (s : Segment) : Place := ⟨some s, none⟩

/-- A document is about to be scored. -/
def moveTo (p : Place) (doc : Nat) : Place := { p with doc := some doc }

/-- Why a document that the segment does not have cannot be read. -/
def lookupFailure (doc : Nat) : String :=
  s!"An invalid argument was passed: 'Failed to lookup Doc #{Decimal.natural doc}.'"

/-- The current document and its number. -/
def current (p : Place) : Except ScoreError (Nat × Document) :=
  match p.segment, p.doc with
  | some s, some doc =>
    match s[doc]? with
    | some d => .ok (doc, d)
    | none => .error (.store (lookupFailure doc))
  | _, _ => .error .noContext

/-- The first of a field's texts in the current document. -/
def first (p : Place) (f : Field) : Except ScoreError String := do
  let (doc, d) ← p.current
  match (d.values f).head? with
  | some s => return s
  | none => .error (.missingField f.name doc)

/-- All of a field's texts in the current document. -/
def every (p : Place) (f : Field) : Except ScoreError (List String) := do
  let (_, d) ← p.current
  return d.values f

/-- Reads a field of the current document. -/
def read (p : Place) (f : Field) : FieldKind → Except ScoreError Value
  | .string => do return ⟨.string, ← p.first f⟩
  | .strings => do return ⟨.strings, ← p.every f⟩
  | .bytes => do return ⟨.bytes, textBytes (← p.first f)⟩
  | .bytesList => do return ⟨.bytesList, (← p.every f).map textBytes⟩

end Place

end Catalogue
