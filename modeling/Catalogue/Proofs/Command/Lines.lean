import Catalogue.Command.Add
import Catalogue.Proofs.Outcome
import Mathlib.Data.List.Forall2

/-! # One book to a line

A text holds books if each of its lines does that is not blank. Otherwise there is a first one that
does not, and its number counts all lines before it, blank or not. -/

namespace Catalogue.Command

variable {number : Nat} {lines : List (List Char)} {text : String} {books : List Book}
  {e : LineError}

def bookOfLine (line : List Char) : Json.Read Book := Json.readText Book.read (String.ofList line)

/-- Lines that are not blank, with their numbers. -/
def numbered (first : Nat) (lines : List (List Char)) : List (List Char × Nat) :=
  (lines.zipIdx first).filter fun l => !(Text.trim l.1).isEmpty

def HoldBooks (lines : List (List Char × Nat)) (books : List Book) : Prop :=
  List.Forall₂ (fun l b => bookOfLine l.1 = .ok b) lines books

/-- The first line that holds no book, and why. -/
inductive FirstMalformed : List (List Char × Nat) → LineError → Prop where
  | here {line number reason rest} : bookOfLine line = .error reason →
      FirstMalformed ((line, number) :: rest) ⟨number, reason.message⟩
  | later {l b rest e} : bookOfLine l.1 = .ok b → FirstMalformed rest e →
      FirstMalformed (l :: rest) e

theorem HoldBooks.unique {ls : List (List Char × Nat)} {others : List Book}
    (h : HoldBooks ls books) (h' : HoldBooks ls others) : books = others := by
  induction h generalizing others with
  | nil =>
      cases h'
      rfl
  | cons hbook _ ih =>
      cases h' with
      | cons hother hrest =>
          cases hbook.symm.trans hother
          rw [ih hrest]

theorem FirstMalformed.unique {ls : List (List Char × Nat)} {e' : LineError}
    (h : FirstMalformed ls e) (h' : FirstMalformed ls e') : e = e' := by
  induction h with
  | here hreason =>
      cases h' with
      | here hother =>
          cases hreason.symm.trans hother
          rfl
      | later hbook _ => cases hreason.symm.trans hbook
  | later hbook _ ih =>
      cases h' with
      | here hreason => cases hbook.symm.trans hreason
      | later _ hrest => exact ih hrest

/-- The lines of a text that are not blank, with their numbers among all lines. -/
def documentLines (text : String) : List (List Char × Nat) :=
  numbered 1 (Text.lines text.toList)

end Catalogue.Command
